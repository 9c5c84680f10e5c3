import SignedBlog.CommandLine.Run
import SignedBlog.Proofs.Authenticity
import SignedBlog.Proofs.Authorship
import SignedBlog.Proofs.Base64

/-!
The identity of a node after a restart.

A text that is clean and has no NUL comes back from the environment as it was set
(`Environment.hold_plain`). So the two settings that are printed with a new identity give the same local
author, whatever else is set: `LoadedIdentity.ofEnvironment_of_generated`. Just the texts that stand for 32
bytes are taken for keys (`LoadedIdentity.exists_author_iff`).
-/

namespace SignedBlog

set_option autoImplicit false

/-! ## Bytes of clean texts -/

namespace Utf8

theorem escapedByte?_of_clean {c : CodePoint} (h : c.isSurrogate = false) : escapedByte? c = none := by
  simp only [CodePoint.isSurrogate, Bool.and_eq_false_iff, decide_eq_false_iff_not] at h
  unfold escapedByte?
  rw [if_neg]
  simp only [Bool.and_eq_true, decide_eq_true_eq]
  omega

theorem unescapedFrom?_of_clean {t : Text} (h : t.Clean) (place : Nat) :
    unescapedFrom? place t = none := by
  induction t generalizing place with
  | nil => rfl
  | cons c t ih =>
    rw [Text.clean_cons] at h
    rw [unescapedFrom?, h.1]
    exact ih h.2 (place + 1)

theorem flatMap_escaped_of_clean {t : Text} (h : t.Clean) :
    (t.flatMap fun c =>
      match escapedByte? c with
      | some b => [b]
      | none => encodeChar c) = t.flatMap encodeChar := by
  induction t with
  | nil => rfl
  | cons c t ih =>
    rw [Text.clean_cons] at h
    rw [List.flatMap_cons, List.flatMap_cons, ih h.2, escapedByte?_of_clean h.1]

theorem encodeEscaped_of_clean {t : Text} (h : t.Clean) :
    encodeEscaped t = .ok (t.flatMap encodeChar) := by
  unfold encodeEscaped
  rw [unescapedFrom?_of_clean h 0]
  exact congrArg Except.ok (flatMap_escaped_of_clean h)

theorem decodeEscapedFrom_flatMap {t : Text} (h : t.Clean) {fuel : Nat} (hfuel : t.length ≤ fuel) :
    decodeEscapedFrom fuel (t.flatMap encodeChar) = t := by
  induction t generalizing fuel with
  | nil => cases fuel <;> rfl
  | cons c t ih =>
    obtain ⟨fuel, rfl⟩ : ∃ more, fuel = more + 1 := ⟨fuel - 1, by simp at hfuel; omega⟩
    rw [Text.clean_cons] at h
    obtain ⟨lead, tail, hbytes, hfront⟩ := @front_encodeChar c false (.inr h.1)
    rw [List.flatMap_cons, hbytes, List.cons_append, decodeEscapedFrom, hfront]
    simp only [ih h.2 (by simpa using hfuel)]

theorem decodeEscaped_flatMap {t : Text} (h : t.Clean) : decodeEscaped (t.flatMap encodeChar) = t :=
  decodeEscapedFrom_flatMap h (length_le_flatMap t)

/-- A byte below 0x80 stands for the code point of its number. -/
theorem val_of_mem_encodeChar {c : CodePoint} {b : UInt8} (hb : b ∈ encodeChar c)
    (hascii : b.toNat < 0x80) : c.val = b.toNat := by
  have hlt := c.val_lt
  unfold encodeChar at hb
  split at hb
  · rw [List.mem_singleton.mp hb, toNat_ofNat (by omega)]
  · exfalso
    split at hb
    · simp only [List.mem_cons, List.not_mem_nil, or_false] at hb
      obtain rfl | rfl := hb <;> rw [toNat_ofNat (by omega)] at hascii <;> omega
    split at hb
    all_goals
      simp only [List.mem_cons, List.not_mem_nil, or_false] at hb
      obtain rfl | rfl | hb := hb
      · rw [toNat_ofNat (by omega)] at hascii
        omega
      · rw [toNat_ofNat (by omega)] at hascii
        omega
    · rw [hb, toNat_ofNat (by omega)] at hascii
      omega
    · obtain rfl | rfl := hb <;> rw [toNat_ofNat (by omega)] at hascii <;> omega

theorem contains_flatMap_encodeChar {t : Text} {b : UInt8} (hascii : b.toNat < 0x80)
    (h : ∀ c ∈ t, c.val ≠ b.toNat) : (t.flatMap encodeChar).contains b = false := by
  rw [Bool.eq_false_iff, ne_eq, List.contains_iff_mem]
  intro hmem
  obtain ⟨c, hc, hb⟩ := List.mem_flatMap.mp hmem
  exact h c hc (val_of_mem_encodeChar hb hascii)

end Utf8

/-! ## Settings that come back -/

/-- A clean text without NUL. -/
structure Text.Settable (t : Text) : Prop where
  clean : t.Clean
  no_nul : ∀ c ∈ t, c.val ≠ 0

namespace Environment

/-- What the environment can hold as it is set is read as it was set. -/
theorem hold_plain {name value : Text} (hname : name.Settable) (hfilled : name ≠ [])
    (hequals : ∀ c ∈ name, c.val ≠ 0x3D) (hvalue : value.Settable) :
    hold name value = .ok (name, value) := by
  have hnul : (name.flatMap Utf8.encodeChar).contains 0 = false :=
    Utf8.contains_flatMap_encodeChar (by decide) hname.no_nul
  have hnul' : (value.flatMap Utf8.encodeChar).contains 0 = false :=
    Utf8.contains_flatMap_encodeChar (by decide) hvalue.no_nul
  have heq : (name.flatMap Utf8.encodeChar).contains 0x3D = false :=
    Utf8.contains_flatMap_encodeChar (by decide) hequals
  have hbytes : (name.flatMap Utf8.encodeChar).isEmpty = false := by
    have hle := Utf8.length_le_flatMap name
    have hpos := List.length_pos_iff.mpr hfilled
    rw [List.isEmpty_eq_false_iff, ← List.length_pos_iff]
    omega
  have hencoded : ∀ bytes : Bytes,
      (Except.ok bytes : Except Utf8.SurrogateRun Bytes).mapError Fault.unencodable = .ok bytes :=
    fun _ => rfl
  unfold hold
  rw [Utf8.encodeEscaped_of_clean hname.clean, Utf8.encodeEscaped_of_clean hvalue.clean, hencoded,
    hencoded]
  simp only [bind, Except.bind, hnul, hnul', heq, hbytes, Bool.or_self, Bool.false_eq_true, if_false,
    Utf8.decodeEscaped_flatMap hname.clean, Utf8.decodeEscaped_flatMap hvalue.clean]
  rfl

theorem ofVariables_cons {name value : Text} {others : List (Text × Text)}
    (h : hold name value = .ok (name, value)) :
    ofVariables ((name, value) :: others)
      = (ofVariables others).map fun env => ⟨(name, value) :: env.entries⟩ := by
  unfold ofVariables
  rw [List.mapM_cons, h]
  cases others.mapM fun entry => hold entry.1 entry.2 <;> rfl

end Environment

/-! ## Keys in settings -/

namespace Base64

theorem settable_encode (bs : Bytes) : (encode bs).Settable where
  clean := clean_encode bs
  no_nul := by
    have halphabet : ∀ c ∈ alphabet, c.val ≠ 0 := by decide
    intro c hc
    obtain hc | rfl := mem_encode hc
    · exact halphabet c hc
    · decide

end Base64

/-- The 43 digits of 32 bytes, and what fills up the last group. -/
def KeyText (t : Text) : Prop :=
  ∃ digits, digits.length = 43 ∧ (∀ c ∈ digits, c ∈ Base64.alphabet) ∧
    t = digits ++ [('=' : CodePoint)]

theorem keyText_iff {t : Text} :
    KeyText t ↔ ∃ bytes, Base64.decode? t = some bytes ∧ bytes.length = 32 :=
  (Base64.exists_decode?_iff (t := t) (n := 32) (by decide)).symm

theorem keyText_encode (seed : Ed25519.Seed) : KeyText (Base64.encode seed.bytes) :=
  keyText_iff.mpr ⟨seed.bytes, Base64.decode?_encode seed.bytes, seed.length_eq⟩

theorem KeyText.ne_nil {t : Text} (h : KeyText t) : t ≠ [] := by
  obtain ⟨digits, -, -, rfl⟩ := h
  simp

/-! ## Identities of settings -/

def nameVariable : Text := "NODEBLOG_AUTHOR_NAME"

def keyVariable : Text := "NODEBLOG_PRIVATE_KEY"

namespace LoadedIdentity

variable {env : Environment} {fresh : Ed25519.Seed} {key : Text}

theorem ofEnvironment_of_malformed (hkey : env.lookup? keyVariable = some key) (hfilled : key ≠ [])
    (h : Base64.decode? key = none) :
    ofEnvironment env fresh = ⟨.error (.identity .keyNotBase64), []⟩ := by
  have hgiven : env.lookup "NODEBLOG_PRIVATE_KEY" [] = key := congrArg (·.getD []) hkey
  unfold ofEnvironment
  simp only [hgiven, List.isEmpty_eq_false_iff.mpr hfilled, h]
  rfl

/-- Once a key is set and can be read, production or not makes no difference. -/
theorem ofEnvironment_of_key (hkey : env.lookup? keyVariable = some key) (hfilled : key ≠ [])
    {bytes : Bytes} (h : Base64.decode? key = some bytes) :
    ofEnvironment env fresh = ⟨LocalAuthor.create (env.lookup nameVariable "node") bytes, []⟩ := by
  have hgiven : env.lookup "NODEBLOG_PRIVATE_KEY" [] = key := congrArg (·.getD []) hkey
  unfold ofEnvironment
  simp only [hgiven, List.isEmpty_eq_false_iff.mpr hfilled, h]
  rfl

/-- Whatever the name, another text makes no author; and what is wrong is the identity, unless the name
cannot even be counted. -/
theorem ofEnvironment_of_not_keyText (hkey : env.lookup? keyVariable = some key) (hfilled : key ≠ [])
    (h : ¬ KeyText key) :
    ∃ fault, ofEnvironment env fresh = ⟨.error fault, []⟩ ∧
      ((env.lookup nameVariable "node").Clean → ∃ defect, fault = .identity defect) := by
  cases hdecode : Base64.decode? key with
  | none =>
    exact ⟨_, ofEnvironment_of_malformed hkey hfilled hdecode, fun _ => ⟨_, rfl⟩⟩
  | some bytes =>
    have hlength : bytes.length ≠ 32 := fun heq => h (keyText_iff.mpr ⟨bytes, hdecode, heq⟩)
    rw [ofEnvironment_of_key hkey hfilled hdecode]
    by_cases hname : Author.NameFits (env.lookup nameVariable "node")
    · rw [LocalAuthor.create_of_length hname hlength]
      exact ⟨_, rfl, fun _ => ⟨_, rfl⟩⟩
    by_cases hclean : (env.lookup nameVariable "node").Clean
    · obtain ⟨defect, hdefect⟩ := Author.checkName_of_misfit hclean hname
      rw [LocalAuthor.create_of_refused hdefect]
      exact ⟨_, rfl, fun _ => ⟨defect, rfl⟩⟩
    · obtain ⟨run, hrun⟩ := Author.checkName_of_not_clean hclean
      rw [LocalAuthor.create_of_refused hrun]
      exact ⟨_, rfl, fun hclean' => absurd hclean' hclean⟩

/-- Where a key is set, there is an author just if the name fits and the key is base64 of 32 bytes. -/
theorem exists_author_iff (hkey : env.lookup? keyVariable = some key) (hfilled : key ≠ []) :
    (∃ author, ofEnvironment env fresh = ⟨.ok author, []⟩) ↔
      Author.NameFits (env.lookup nameVariable "node") ∧ KeyText key := by
  constructor
  · rintro ⟨author, hauthor⟩
    have hkeyText : KeyText key := by
      apply Classical.byContradiction
      intro hnot
      obtain ⟨fault, hfault, -⟩ := @ofEnvironment_of_not_keyText env fresh key hkey hfilled hnot
      rw [hfault] at hauthor
      cases hauthor
    obtain ⟨bytes, hdecode, -⟩ := keyText_iff.mp hkeyText
    rw [ofEnvironment_of_key hkey hfilled hdecode] at hauthor
    have hcreate := congrArg LoadedIdentity.result hauthor
    exact ⟨(LocalAuthor.create_eq_ok_iff.mp hcreate).1, hkeyText⟩
  · rintro ⟨hname, hkeyText⟩
    obtain ⟨bytes, hdecode, hlength⟩ := keyText_iff.mp hkeyText
    rw [ofEnvironment_of_key hkey hfilled hdecode, LocalAuthor.create_bytes hname ⟨bytes, hlength⟩]
    exact ⟨_, rfl⟩

end LoadedIdentity

/-! ## Starting again -/

theorem Node.startOn_of_identity {around : Surroundings} {author : LocalAuthor} {warnings : List Text}
    (h : around.identity = ⟨.ok author, warnings⟩) (store : Store) :
    ∃ node, Node.startOn around store = .ok node ∧ node.identity = ⟨some author⟩ ∧
      node.store = store.addBlog (Blog.personal author.toAuthor) := by
  unfold Node.startOn
  rw [h]
  exact ⟨_, rfl, rfl, rfl⟩

/-- The secret key of an author as it stands in settings. -/
def LocalAuthor.secretText (author : LocalAuthor) : Text := Base64.encode author.seed.bytes

/-- With the two settings that are printed with a new identity, which the environment can hold, every
start gives the same local author, whatever else is set, and so a node with the author's personal blog. Of
other texts just those that are base64 of 32 bytes are keys. -/
theorem LoadedIdentity.ofEnvironment_of_generated {name : Text} {seed : Ed25519.Seed}
    {author : LocalAuthor} (hauthor : LocalAuthor.create name seed.bytes = .ok author)
    (hnul : ∀ c ∈ name, c.val ≠ 0) :
    (∃ before, ∀ node, (CommandLine.Command.generateIdentity name).run seed node
      = .success (CommandLine.lines (before ++ [("  NODEBLOG_AUTHOR_NAME=" : Text) ++ name,
          ("  NODEBLOG_PRIVATE_KEY=" : Text) ++ author.secretText]))) ∧
    (∀ others,
      Environment.ofVariables ((nameVariable, name) :: (keyVariable, author.secretText) :: others)
        = (Environment.ofVariables others).map
            fun env => ⟨(nameVariable, name) :: (keyVariable, author.secretText) :: env.entries⟩) ∧
    (∀ around : Surroundings, around.env.lookup? nameVariable = some name →
      around.env.lookup? keyVariable = some author.secretText →
      around.identity = ⟨.ok author, []⟩ ∧
        ∀ store, ∃ node, Node.startOn around store = .ok node ∧ node.identity = ⟨some author⟩ ∧
          node.store = store.addBlog (Blog.personal author.toAuthor)) ∧
    (∀ given, KeyText given ↔ ∃ bytes, Base64.decode? given = some bytes ∧ bytes.length = 32) ∧
    ∀ (around : Surroundings) (given : Text), around.env.lookup? keyVariable = some given →
      given ≠ [] →
      ((∃ author, around.identity = ⟨.ok author, []⟩) ↔
        Author.NameFits (around.env.lookup nameVariable "node") ∧ KeyText given) ∧
      (¬ KeyText given → ∃ fault, around.identity = ⟨.error fault, []⟩ ∧
        ((around.env.lookup nameVariable "node").Clean → ∃ defect, fault = .identity defect)) := by
  obtain ⟨hname, -, -⟩ := LocalAuthor.create_eq_ok_iff.mp hauthor
  have hcreate := LocalAuthor.create_bytes hname seed
  obtain rfl : author = .ofSeed name seed := Except.ok.inj (hauthor.symm.trans hcreate)
  refine ⟨⟨(CommandLine.identityLines (.ofSeed name seed)).take 7, ?printed⟩, ?held, ?restart,
    fun _ => keyText_iff, ?other⟩
  case printed =>
    intro node
    change CommandLine.Report.ofNewIdentity seed name = _
    unfold CommandLine.Report.ofNewIdentity
    rw [hcreate]
    rfl
  case held =>
    intro others
    rw [Environment.ofVariables_cons, Environment.ofVariables_cons]
    · cases Environment.ofVariables others <;> rfl
    · exact Environment.hold_plain ⟨by decide, by decide⟩ (by decide) (by decide)
        (Base64.settable_encode seed.bytes)
    · exact Environment.hold_plain ⟨by decide, by decide⟩ (by decide) (by decide) ⟨hname.clean, hnul⟩
  case restart =>
    intro around hgiven hkey
    have hname' : around.env.lookup nameVariable "node" = name := congrArg (·.getD "node") hgiven
    have hidentity : around.identity = ⟨.ok (.ofSeed name seed), []⟩ := by
      change LoadedIdentity.ofEnvironment around.env around.fresh = _
      rw [LoadedIdentity.ofEnvironment_of_key hkey (keyText_encode seed).ne_nil
        (Base64.decode?_encode seed.bytes), hname', hcreate]
    exact ⟨hidentity, Node.startOn_of_identity hidentity⟩
  case other =>
    intro around given hgiven hfilled
    exact ⟨LoadedIdentity.exists_author_iff hgiven hfilled,
      LoadedIdentity.ofEnvironment_of_not_keyText hgiven hfilled⟩

def annsRestart : Surroundings where
  env := ⟨[("NODEBLOG_PRODUCTION", "1"), (nameVariable, "ann"),
    (keyVariable, Base64.encode Node.ann.seed.bytes)]⟩
  now := 0
  fresh := ⟨List.replicate 32 9, rfl⟩

theorem LoadedIdentity.ofEnvironment_of_generated_ann :
    LocalAuthor.create "ann" Node.ann.seed.bytes = .ok Node.ann ∧ (∀ c ∈ ("ann" : Text), c.val ≠ 0) ∧
      annsRestart.env.isProduction = true ∧ annsRestart.identity = ⟨.ok Node.ann, []⟩ := by
  have hname : Author.NameFits "ann" := ⟨by decide, by decide, by decide⟩
  have hauthor : LocalAuthor.create "ann" Node.ann.seed.bytes = .ok Node.ann :=
    LocalAuthor.create_bytes hname Node.ann.seed
  obtain ⟨-, -, hrestart, -⟩ := LoadedIdentity.ofEnvironment_of_generated hauthor (by decide)
  exact ⟨hauthor, by decide, by decide, (hrestart annsRestart rfl rfl).1⟩

end SignedBlog
