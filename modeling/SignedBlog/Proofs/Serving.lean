import SignedBlog.Http.App
import SignedBlog.Proofs.JsonSurrogates
import SignedBlog.Proofs.Listing
import SignedBlog.Proofs.Relay

/-!
When the feed can be served.

The body of an answer is UTF-8, and a surrogate has no UTF-8 form. Texts are checked when a post is
made and when it arrives, and the name of an author when the author is made here; the name that a
peer gives is not checked. The numbers of a post stand in a few bytes, but the time of its arrival is
what the clock says. So the feed is served as long as no arrival has a time of too many digits and no
name that a peer gave holds a surrogate (`Node.serveFeed_of_run`).
-/

namespace SignedBlog

set_option autoImplicit false

/-! ## The body of a feed -/

theorem Value.render_of_toWire {value : Value} {digits : Option Nat} {json : Json}
    (h : value.toWire digits = .ok json) :
    value.render digits = (json.write .compact).utf8 := by
  unfold render
  rw [h]

theorem Value.render_of_fault {value : Value} {digits : Option Nat} {fault : Fault}
    (h : value.toWire digits = .error fault) : value.render digits = .error fault := by
  unfold render
  rw [h]

namespace Record

/-- A record in an answer. -/
def toJson (record : Record) : Json :=
  .object [
    ("id", .text (Base64.encode record.header.id)),
    ("blogId", .text (Base64.encode record.header.blogId)),
    ("parentId", match record.header.parentId with
      | none => .null
      | some bytes => .text (Base64.encode bytes)),
    ("author", .object [
      ("formatVersion", .int record.header.author.formatVersion),
      ("id", .text (Base64.encode record.header.author.id)),
      ("name", .text record.header.author.name),
      ("publicKey", .text (Base64.encode record.header.author.publicKey))]),
    ("authorStatus", .text record.header.authorStatus.word),
    ("timestamp", .int record.header.timestamp),
    ("timeReceived", .int record.header.timeReceived),
    ("text", .text record.text)]

/-- The texts of a record that anybody could choose have a UTF-8 form. -/
def Encodable (record : Record) : Prop := record.header.author.name.Clean ∧ record.text.Clean

/-- The integers of a record may be written. -/
structure Fits (digits : Option Nat) (record : Record) : Prop where
  formatVersion : Integer.fits digits record.header.author.formatVersion = true
  timestamp : Integer.fits digits record.header.timestamp = true
  timeReceived : Integer.fits digits record.header.timeReceived = true

section Wire

variable {rules : Value.WireRules}

/-- Only the digits of its integers keep a record from being written. -/
theorem wire_toValue (hbytes : rules.bytesAsText = true) (room : Nat) (record : Record) :
    record.toValue.wire rules (room + 2) = (do
      Integer.checkDigits rules.digits record.header.author.formatVersion
      Integer.checkDigits rules.digits record.header.timestamp
      Integer.checkDigits rules.digits record.header.timeReceived
      return record.toJson) := by
  obtain ⟨⟨id, blogId, parentId, author, status, timestamp, timeReceived⟩, text⟩ := record
  obtain ⟨bytesAsText, finiteOnly, digits⟩ := rules
  change bytesAsText = true at hbytes
  subst hbytes
  cases hversion : Integer.checkDigits digits author.formatVersion <;>
    cases htime : Integer.checkDigits digits timestamp <;>
    cases hreceived : Integer.checkDigits digits timeReceived <;>
    cases parentId <;>
    simp only [toValue, toJson, Author.toValue, Post.optionalBytes, Value.record, List.map_cons,
      List.map_nil, Value.wire, Value.wireEntries, Value.wireName, Value.wireBytes,
      Value.substitute, Value.wireInt, hversion, htime, hreceived, if_true, Except.map, bind,
      Except.bind, pure, Except.pure]

theorem wire_of_fits (hbytes : rules.bytesAsText = true) (room : Nat) {record : Record}
    (h : record.Fits rules.digits) : record.toValue.wire rules (room + 2) = .ok record.toJson := by
  rw [wire_toValue hbytes, Integer.checkDigits_of_fits h.formatVersion,
    Integer.checkDigits_of_fits h.timestamp, Integer.checkDigits_of_fits h.timeReceived]
  rfl

theorem wire_of_long (hbytes : rules.bytesAsText = true) (room : Nat) {record : Record}
    (h : ¬ record.Fits rules.digits) :
    record.toValue.wire rules (room + 2) = .error (.setting .longInteger) := by
  rw [wire_toValue hbytes]
  cases hversion : Integer.fits rules.digits record.header.author.formatVersion with
  | false =>
    rw [Integer.checkDigits_of_long hversion]
    rfl
  | true =>
    cases htime : Integer.fits rules.digits record.header.timestamp with
    | false =>
      rw [Integer.checkDigits_of_fits hversion, Integer.checkDigits_of_long htime]
      rfl
    | true =>
      have hreceived := Bool.eq_false_iff.mpr fun hreceived => h ⟨hversion, htime, hreceived⟩
      rw [Integer.checkDigits_of_fits hversion, Integer.checkDigits_of_fits htime,
        Integer.checkDigits_of_long hreceived]
      rfl

theorem wireItems_of_fits (hbytes : rules.bytesAsText = true) (room : Nat) {records : List Record}
    (h : ∀ record ∈ records, record.Fits rules.digits) :
    Value.wireItems rules (room + 2) (records.map toValue) = .ok (records.map toJson) := by
  induction records with
  | nil => rfl
  | cons record records ih =>
    obtain ⟨hfirst, hrest⟩ := List.forall_mem_cons.mp h
    simp only [List.map_cons, Value.wireItems, wire_of_fits hbytes room hfirst, ih hrest]

theorem wireItems_of_long (hbytes : rules.bytesAsText = true) (room : Nat) {records : List Record}
    (h : ¬ ∀ record ∈ records, record.Fits rules.digits) :
    Value.wireItems rules (room + 2) (records.map toValue) = .error (.setting .longInteger) := by
  induction records with
  | nil => exact absurd (List.forall_mem_nil _) h
  | cons record records ih =>
    by_cases hfirst : record.Fits rules.digits
    · have hrest := fun hrest => h (List.forall_mem_cons.mpr ⟨hfirst, hrest⟩)
      simp only [List.map_cons, Value.wireItems, wire_of_fits hbytes room hfirst, ih hrest]
    · simp only [List.map_cons, Value.wireItems, wire_of_long hbytes room hfirst]

end Wire

section Render

variable {digits : Option Nat} {records : List Record}

theorem toWire_listToValue (h : ∀ record ∈ records, record.Fits digits) :
    (listToValue records).toWire digits = .ok (.array (records.map toJson)) := by
  unfold listToValue Value.toWire Value.wireDepth
  -- one level for the feed, two for a record and its author; the rest of the room is not used
  rw [Value.wire, @wireItems_of_fits ⟨true, true, digits⟩ rfl 987 records h]
  rfl

/-- The first record with an integer that is too long ends the writing of a feed. -/
theorem toWire_listToValue_of_long (h : ¬ ∀ record ∈ records, record.Fits digits) :
    (listToValue records).toWire digits = .error (.setting .longInteger) := by
  unfold listToValue Value.toWire Value.wireDepth
  rw [Value.wire, @wireItems_of_long ⟨true, true, digits⟩ rfl 987 records h]
  rfl

theorem integral_toJson (record : Record) : record.toJson.Integral := by
  unfold toJson
  cases record.header.parentId <;> simp

theorem clean_toJson (record : Record) : record.toJson.Clean ↔ record.Encodable := by
  have hnames : ("id" : Text).Clean ∧ ("blogId" : Text).Clean ∧ ("parentId" : Text).Clean ∧
      ("author" : Text).Clean ∧ ("formatVersion" : Text).Clean ∧ ("name" : Text).Clean ∧
      ("publicKey" : Text).Clean ∧ ("authorStatus" : Text).Clean ∧ ("timestamp" : Text).Clean ∧
      ("timeReceived" : Text).Clean ∧ ("text" : Text).Clean := by decide
  have hstatus : record.header.authorStatus.word.Clean := by
    cases record.header.authorStatus <;> decide
  unfold toJson Encodable
  cases record.header.parentId <;> simp [hnames, hstatus, Base64.clean_encode]

theorem clean_write_listToJson (records : List Record) :
    ((Json.array (records.map toJson)).write .compact).Clean ↔
      ∀ record ∈ records, record.Encodable := by
  have hintegral : (Json.array (records.map toJson)).Integral := by
    simp [integral_toJson]
  rw [Json.write, Json.clean_writeAt Json.transparent_compact 0 _ hintegral]
  simp [clean_toJson]

theorem render_of_encodable (hfits : ∀ record ∈ records, record.Fits digits)
    (h : ∀ record ∈ records, record.Encodable) :
    ∃ body, (listToValue records).render digits = .ok body := by
  rw [Value.render_of_toWire (toWire_listToValue hfits)]
  exact ⟨_, Text.utf8_eq_ok_iff.mpr ⟨(clean_write_listToJson records).mpr h, rfl⟩⟩

theorem render_of_not_encodable (hfits : ∀ record ∈ records, record.Fits digits)
    (h : ¬ ∀ record ∈ records, record.Encodable) :
    ∃ run, (listToValue records).render digits = .error (.unencodable run) := by
  rw [Value.render_of_toWire (toWire_listToValue hfits)]
  exact Text.utf8_of_not_clean (mt (clean_write_listToJson records).mp h)

/-- The digits are counted before the texts are encoded. -/
theorem render_of_long (h : ¬ ∀ record ∈ records, record.Fits digits) :
    (listToValue records).render digits = .error (.setting .longInteger) :=
  Value.render_of_fault (toWire_listToValue_of_long h)

end Render

end Record

theorem Http.App.serveFeed_of_listed {node : Node} {records : List Record}
    (h : node.listPosts.1 = .ok records) :
    (serveFeed node).1 = answer (Record.listToValue records).render := by
  unfold serveFeed
  cases hresult : node.listPosts with
  | mk result next =>
    rw [hresult] at h
    subst h
    rfl

theorem LocalAuthor.name_clean_of_create {name : Text} {privateKey : Bytes} {author : LocalAuthor}
    (h : LocalAuthor.create name privateKey = .ok author) : author.name.Clean := by
  obtain ⟨hname, -, hauthor⟩ := LocalAuthor.create_eq_ok_iff.mp h
  rw [hauthor]
  exact hname.clean

namespace Node

/-! ## Nodes whose feed can be read -/

/-- Texts can be read, and what was checked in a stored post can be written: its texts have a UTF-8
form, and its numbers not too many digits. -/
structure Servable (node : Node) : Prop where
  coherent : node.store.Coherent
  text_clean : ∀ stored ∈ node.store.messages, stored.post.text.Clean
  ownName_clean : ∀ stored ∈ node.store.messages, stored.isLocal = true →
    stored.post.author.name.Clean
  numbers_fit : ∀ stored ∈ node.store.messages,
    Integer.fits Integer.usualLimit stored.post.author.formatVersion = true ∧
      Integer.fits Integer.usualLimit stored.post.timestamp = true
  author_clean : ∀ author, node.identity.author? = some author → author.name.Clean
  readable : node.availability.readsLeft = none

theorem readsLeft_after {node : Node} (hcoherent : node.store.Coherent)
    (h : node.availability.readsLeft = none) (action : Action) :
    (node.after action).availability.readsLeft = none := by
  cases action with
  | createPost text =>
    obtain ⟨store, metrics, -, hnext⟩ := createPost_effect text node
    rw [after, hnext]
    exact h
  | addRemotePost post =>
    obtain ⟨store, metrics, -, hnext⟩ := addRemotePost_effect post node
    rw [after, hnext]
    exact h
  | addBlog blog =>
    obtain ⟨store, -, hnext⟩ := addBlog_effect blog node
    rw [after, hnext]
    exact h
  | addPersonalBlog author => exact h
  | registerLocalAuthor name privateKey =>
    rw [after]
    cases LocalAuthor.create name privateKey with
    | error fault => exact h
    | ok author =>
      obtain hnext | hnext := registerLocalAuthor_cases author node
      · simp only [hnext, h]
      · simp only [hnext, h]
  | listPosts =>
    rw [after, listPosts_eq hcoherent (canRead_of_unlimited h _)]
    change node.availability.readsLeft.map _ = none
    rw [h]
    rfl
  | setClock time => exact h
  | advanceClock millis => exact h
  | setArrivalClock time => exact h

/-- What is drafted here has been written out to be signed. -/
theorem numbers_fit_of_draft {node : Node} {text : Text} {post : Post}
    (hdraft : node.draft text = .ok post) :
    Integer.fits Integer.usualLimit post.author.formatVersion = true ∧
      Integer.fits Integer.usualLimit post.timestamp = true := by
  obtain ⟨author, -, hcompose⟩ := compose_of_draft hdraft
  obtain ⟨-, htime, hversion⟩ := Post.fits_of_compose hcompose
  obtain ⟨-, messageId, signature, -, -, rfl⟩ := Post.compose_eq_ok hcompose
  exact ⟨hversion, htime⟩

namespace Servable

variable {node : Node}

theorem after (h : node.Servable) (action : Action) : (node.after action).Servable := by
  obtain ⟨heffect, hidentity⟩ := after_effect node action
  constructor
  case coherent =>
    obtain ⟨changes, hstore⟩ := heffect.exists_changes
    rw [hstore]
    exact h.coherent.run changes
  case text_clean =>
    refine heffect.forall_messages h.text_clean ?drafted ?delivered
    case drafted =>
      rintro text post - hdraft
      obtain ⟨author, -, htext, hsame, -⟩ := draft_eq_ok hdraft
      change post.text.Clean
      rw [hsame]
      exact htext.clean
    case delivered =>
      rintro post - hverified
      exact ((Post.verify_eq_ok_iff post).mp hverified).textFits.clean
  case ownName_clean =>
    refine heffect.forall_messages h.ownName_clean ?drafted ?delivered
    case drafted =>
      rintro text post - hdraft -
      obtain ⟨author, hauthor, -, -, hsame⟩ := draft_eq_ok hdraft
      change post.author.name.Clean
      rw [hsame]
      exact h.author_clean author hauthor
    case delivered =>
      rintro post - - hlocal
      cases hlocal
  case numbers_fit =>
    refine heffect.forall_messages h.numbers_fit ?drafted ?delivered
    case drafted =>
      rintro text post - hdraft
      exact numbers_fit_of_draft hdraft
    case delivered =>
      rintro post - hverified
      have hvalid := (Post.verify_eq_ok_iff post).mp hverified
      exact ⟨Identifier.fits_of_author hvalid.authorId, hvalid.timestampFits⟩
  case author_clean =>
    intro author hauthor
    obtain hsame | ⟨name, privateKey, registered, hcreate, hnext⟩ := hidentity
    · rw [hsame] at hauthor
      exact h.author_clean author hauthor
    · rw [hnext] at hauthor
      cases hauthor
      exact LocalAuthor.name_clean_of_create hcreate
  case readable => exact readsLeft_after h.coherent h.readable action

theorem run (h : node.Servable) (actions : List Action) : (node.run actions).Servable := by
  induction actions generalizing node with
  | nil => exact h
  | cons action actions ih => exact ih (h.after action)

/-- Of what a listing shows, only names that peers gave may have no UTF-8 form. -/
theorem encodable_iff (h : node.Servable) :
    (∀ record ∈ node.store.feed.map node.identity.record, record.Encodable) ↔
      ∀ stored ∈ node.store.messages, stored.isLocal = false → stored.post.author.name.Clean := by
  rw [List.forall_mem_map]
  constructor
  · intro hall stored hstored _
    exact (hall stored (h.coherent.mem_feed_iff.mpr hstored)).1
  · intro hnames stored hfeed
    have hstored := h.coherent.mem_feed_iff.mp hfeed
    refine ⟨?_, h.text_clean stored hstored⟩
    cases hlocal : stored.isLocal with
    | true => exact h.ownName_clean stored hstored hlocal
    | false => exact hnames stored hstored hlocal

/-- Of the numbers in a listing, only the times of arrivals may be too long. -/
theorem fits_iff (h : node.Servable) :
    (∀ record ∈ node.store.feed.map node.identity.record, record.Fits Integer.usualLimit) ↔
      ∀ stored ∈ node.store.messages,
        Integer.fits Integer.usualLimit stored.timeReceived = true := by
  rw [List.forall_mem_map]
  constructor
  · intro hall stored hstored
    exact (hall stored (h.coherent.mem_feed_iff.mpr hstored)).timeReceived
  · intro hreceived stored hfeed
    have hstored := h.coherent.mem_feed_iff.mp hfeed
    obtain ⟨hversion, htime⟩ := h.numbers_fit stored hstored
    exact ⟨hversion, htime, hreceived stored hstored⟩

/-- What is made of a text here can be shown. -/
theorem encodable_of_draft (h : node.Servable) {text : Text} {post : Post}
    (hdraft : node.draft text = .ok post) :
    (node.identity.record (node.store.arriving node.arrivalClock post true)).Encodable := by
  obtain ⟨signer, hsigner, hfits, htext, hsame⟩ := draft_eq_ok hdraft
  constructor
  · change post.author.name.Clean
    rw [hsame]
    exact h.author_clean signer hsigner
  · change post.text.Clean
    rw [htext]
    exact hfits.clean

theorem serveFeed_cases (h : node.Servable) :
    ∃ records, node.listPosts.1 = .ok records ∧
      ((∀ stored ∈ node.store.messages,
          Integer.fits Integer.usualLimit stored.timeReceived = true) →
        ((∀ stored ∈ node.store.messages, stored.isLocal = false →
            stored.post.author.name.Clean) →
          ∃ body, (Record.listToValue records).render = .ok body ∧
            (Http.App.serveFeed node).1 = .ok ⟨200, some Http.jsonType, [], body⟩) ∧
        ((∃ stored ∈ node.store.messages, stored.isLocal = false ∧
            ¬ stored.post.author.name.Clean) →
          ∃ run, (Record.listToValue records).render = .error (.unencodable run) ∧
            (Http.App.serveFeed node).1 = .error (.unencodable run))) ∧
      ((∃ stored ∈ node.store.messages,
          Integer.fits Integer.usualLimit stored.timeReceived = false) →
        (Record.listToValue records).render = .error (.setting .longInteger) ∧
          (Http.App.serveFeed node).1 = .error (.setting .longInteger)) := by
  have hlist := listPosts_eq h.coherent (canRead_of_unlimited h.readable _)
  have hserved := Http.App.serveFeed_of_listed (congrArg Prod.fst hlist)
  refine ⟨_, congrArg Prod.fst hlist, fun hreceived => ⟨?written, ?refused⟩, ?long⟩
  case written =>
    intro hnames
    obtain ⟨body, hbody⟩ := Record.render_of_encodable (h.fits_iff.mpr hreceived)
      (h.encodable_iff.mpr hnames)
    refine ⟨body, hbody, ?_⟩
    rw [hserved, hbody]
    rfl
  case refused =>
    rintro ⟨stored, hstored, hlocal, hname⟩
    obtain ⟨run, hrun⟩ := Record.render_of_not_encodable (h.fits_iff.mpr hreceived) fun hall =>
      hname (h.encodable_iff.mp hall stored hstored hlocal)
    refine ⟨run, hrun, ?_⟩
    rw [hserved, hrun]
    rfl
  case long =>
    rintro ⟨stored, hstored, hlong⟩
    have hbody := @Record.render_of_long Integer.usualLimit
      (node.store.feed.map node.identity.record) fun hall =>
        Bool.eq_false_iff.mp hlong (h.fits_iff.mp hall stored hstored)
    refine ⟨hbody, ?_⟩
    rw [hserved, hbody]
    rfl

end Servable

theorem servable_of_build {name : Text} {privateKey : Bytes} {author : LocalAuthor} {clock : Int}
    {metrics : Metrics} {limit : Option Int} {node : Node}
    (hauthor : LocalAuthor.create name privateKey = .ok author)
    (hbuild : (build .empty author clock metrics limit {}).1 = .ok node) : node.Servable := by
  obtain ⟨hstore, hidentity, -, havailable⟩ := build_eq_ok hbuild
  have hempty : node.store.messages = [] := by
    rw [hstore, Store.messages_addBlog]
    rfl
  constructor
  case coherent => exact coherent_of_run hbuild []
  case text_clean =>
    rw [hempty]
    exact List.forall_mem_nil _
  case ownName_clean =>
    rw [hempty]
    exact List.forall_mem_nil _
  case numbers_fit =>
    rw [hempty]
    exact List.forall_mem_nil _
  case author_clean =>
    intro registered hregistered
    rw [hidentity] at hregistered
    cases hregistered
    exact LocalAuthor.name_clean_of_create hauthor
  case readable => rw [havailable]

/-- Whatever is done to a node that was built on nothing, its posts can be listed. Unless the clock
gave a post a time of arrival with too many digits, the listing is written and served as long as
every name that a peer gave has a UTF-8 form; with the first that has none, the body cannot be
written. -/
theorem serveFeed_of_run {name : Text} {privateKey : Bytes} {author : LocalAuthor} {clock : Int}
    {metrics : Metrics} {limit : Option Int} {node : Node} {actions : List Action}
    (hauthor : LocalAuthor.create name privateKey = .ok author)
    (hbuild : (build .empty author clock metrics limit {}).1 = .ok node) :
    ∃ records, (node.run actions).listPosts.1 = .ok records ∧
      ((∀ stored ∈ (node.run actions).store.messages,
          Integer.fits Integer.usualLimit stored.timeReceived = true) →
        ((∀ stored ∈ (node.run actions).store.messages, stored.isLocal = false →
            stored.post.author.name.Clean) →
          ∃ body, (Record.listToValue records).render = .ok body ∧
            (Http.App.serveFeed (node.run actions)).1
              = .ok ⟨200, some Http.jsonType, [], body⟩) ∧
        ((∃ stored ∈ (node.run actions).store.messages, stored.isLocal = false ∧
            ¬ stored.post.author.name.Clean) →
          ∃ run, (Record.listToValue records).render = .error (.unencodable run) ∧
            (Http.App.serveFeed (node.run actions)).1 = .error (.unencodable run))) ∧
      ((∃ stored ∈ (node.run actions).store.messages,
          Integer.fits Integer.usualLimit stored.timeReceived = false) →
        (Record.listToValue records).render = .error (.setting .longInteger) ∧
          (Http.App.serveFeed (node.run actions)).1 = .error (.setting .longInteger)) :=
  ((servable_of_build hauthor hbuild).run actions).serveFeed_cases

theorem serveFeed_of_run_relay :
    LocalAuthor.create "ann" (List.replicate 32 7) = .ok ann ∧
      (build .empty ann 5 {} none {}).1 = .ok (annsNode.setClock 5) ∧
      ∃ records body, ((annsNode.setClock 5).run relayActions).listPosts.1 = .ok records ∧
        (Record.listToValue records).render = .ok body ∧
        (Http.App.serveFeed ((annsNode.setClock 5).run relayActions)).1
          = .ok ⟨200, some Http.jsonType, [], body⟩ := by
  refine ⟨rfl, rfl, ?_⟩
  obtain ⟨records, hlist, hserved, -⟩ := @serveFeed_of_run "ann" (List.replicate 32 7) ann 5 {}
    none (annsNode.setClock 5) relayActions rfl rfl
  rw [messages_of_annsRelay, List.forall_mem_cons, List.forall_mem_singleton] at hserved
  have heve : ("eve" : Text).Clean := by decide
  obtain ⟨body, hbody, hanswer⟩ :=
    (hserved ⟨by decide, by decide⟩).1 (List.forall_mem_cons.mpr
      ⟨Bool.noConfusion, List.forall_mem_singleton.mpr fun _ => heve⟩)
  exact ⟨records, body, hlist, hbody, hanswer⟩

/-- A post that a peer delivers can keep the feed from being served. -/
theorem not_serveFeed_of_run :
    ¬ ∀ (name : Text) (privateKey : Bytes) (author : LocalAuthor) (clock : Int) (node : Node)
      (actions : List Action), LocalAuthor.create name privateKey = .ok author →
      (build .empty author clock {} none {}).1 = .ok node →
      ∃ records body, (node.run actions).listPosts.1 = .ok records ∧
        (Record.listToValue records).render = .ok body := by
  intro hclaim
  -- a lone surrogate is a name that is short enough
  let name : Text := [⟨0xD800, by decide⟩]
  have hstart : (annsNode.setClock 5).Servable := @servable_of_build "ann" (List.replicate 32 7)
    ann 5 {} none (annsNode.setClock 5) rfl rfl
  have hmessages : ((annsNode.setClock 5).run [.addRemotePost (annsPost name)]).store.messages
      = [⟨annsPost name, max 5 0, false⟩] := by
    have hvalid : (annsPost name).Valid := valid_annsPost (by decide)
    unfold annsPost at hvalid ⊢
    exact @messages_of_delivery "ann" name "hello" ann.seed 5 (annsNode.setClock 5) rfl hvalid
  obtain ⟨records, hlist, hwritten, -⟩ :=
    (hstart.run [.addRemotePost (annsPost name)]).serveFeed_cases
  rw [hmessages, List.forall_mem_singleton] at hwritten
  obtain ⟨run, hrun, -⟩ :=
    (hwritten (by decide)).2 ⟨_, List.mem_singleton.mpr rfl, rfl, by decide⟩
  obtain ⟨records', body, hlist', hbody⟩ := hclaim "ann" (List.replicate 32 7) ann 5
    (annsNode.setClock 5) [.addRemotePost (annsPost name)] rfl rfl
  rw [hlist] at hlist'
  cases hlist'
  rw [hrun] at hbody
  cases hbody

end Node

end SignedBlog
