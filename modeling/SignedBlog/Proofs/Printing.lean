import SignedBlog.CommandLine.Run
import SignedBlog.Proofs.JsonBlanks
import SignedBlog.Proofs.Posting

/-!
What commands print and what requests are answered with.

A command prints the feed or the record of a new post as indented JSON, and a request is answered with
the same in compact JSON. The body is what was printed without the blanks outside of strings, and
both are read as one value, whose fields stand in one order: `CommandLine.printed_and_answered`.
Where an integer has too many digits to be written, there is neither.
-/

namespace SignedBlog.CommandLine

set_option autoImplicit false

open Http (App Request jsonType)

/-- A value is printed as one text and answered with one body, which differ only in blanks outside of
strings, and both are read as the same JSON. -/
structure SameData (value : Value) (json : Json) (output : Text) (body : Bytes) : Prop where
  printed : printed value = .ok output
  rendered : value.render = .ok body
  decoded : Utf8.decode body = .ok (Json.bare output)
  output_read : Json.readAll output = some json
  body_read : Json.ofBody? body = some json

theorem printed_of_toWire {value : Value} {json : Json} (h : value.toWire = .ok json) :
    printed value = .ok (json.write .indented ++ [('\n' : CodePoint)]) := by
  unfold printed
  rw [h]
  exact congrArg Except.ok (List.flatMap_singleton _ _)

/-- A value whose JSON is legible is printed and answered with the same data. -/
theorem exists_sameData {value : Value} {json : Json} (hwire : value.toWire = .ok json)
    (h : json.Legible) : ∃ output body, SameData value json output body := by
  have hend : ∀ c ∈ [('\n' : CodePoint)], Json.isSpace c = true := by decide
  obtain ⟨body, hbody, hread⟩ := Json.body_of_legible h
  refine ⟨json.write .indented ++ [('\n' : CodePoint)], body, ?_⟩
  constructor
  case printed => exact printed_of_toWire hwire
  case rendered => exact (Value.render_of_toWire hwire).trans hbody
  case decoded =>
    rw [Json.bare_write_blanks Json.separates_indented json hend]
    exact Text.decode_of_utf8 hbody
  case output_read => exact Json.readAll_write_blanks Json.separates_indented h hend
  case body_read => exact hread

/-! ## Commands and requests -/

section Runs

variable {json : Json} {output : Text} {body : Bytes} {app : App} {request : Request}

theorem SameData.listed {records : List Record}
    (h : SameData (Record.listToValue records) json output body) (fresh : Ed25519.Seed)
    (hlist : app.node.listPosts.1 = .ok records) (hrequest : app.Lists request)
    (arrival : Http.Arrival) :
    Command.listPosts.run fresh (.ok app.node) = .success output ∧
      (app.handle arrival request).1.response = ⟨200, some jsonType, [], body⟩ := by
  constructor
  · change Report.ofListing app.node = _
    unfold Report.ofListing Report.ofPrinted
    simp only [hlist, h.printed]
  · refine App.handle_of_ok ?_
    rw [App.respond_of_lists hrequest, App.serveFeed_of_listed hlist, h.rendered]
    rfl

theorem SameData.posted {record : Record} (h : SameData record.toValue json output body)
    (fresh : Ed25519.Seed) {text : Text} (hcreated : (app.node.createPost text).1 = .ok record)
    (hrequest : app.Posts request text) (arrival : Http.Arrival) :
    (Command.createPost (some text)).run fresh (.ok app.node) = .success output ∧
      (app.handle arrival request).1.response = ⟨200, some jsonType, [], body⟩ := by
  constructor
  · change Report.ofPublishing (some text) app.node = _
    unfold Report.ofPublishing Report.ofPrinted
    simp only [hcreated, h.printed]
  · refine App.handle_of_ok ?_
    rw [App.respond_of_posts hrequest, App.answerPost_of_created hcreated, h.rendered]
    rfl

end Runs

theorem printed_of_fault {value : Value} {fault : Fault} (h : value.toWire = .error fault) :
    printed value = .error fault := by
  unfold printed
  rw [h]
  rfl

/-- Records whose texts have a UTF-8 form are printed and answered with the same data, as a feed and
one by one. On one node, a command prints that text where a request that is granted gets that body.
Only integers with too many digits keep records from being written, and in both forms alike. -/
theorem printed_and_answered :
    (∀ records : List Record, (∀ record ∈ records, record.Encodable) →
      ((∀ record ∈ records, record.Fits Integer.usualLimit) →
        ∃ output body,
          SameData (Record.listToValue records) (.array (records.map Record.toJson)) output body ∧
          ∀ (fresh : Ed25519.Seed) (app : App) (arrival : Http.Arrival) (request : Request),
            app.node.listPosts.1 = .ok records → app.Lists request →
            Command.listPosts.run fresh (.ok app.node) = .success output ∧
              (app.handle arrival request).1.response = ⟨200, some jsonType, [], body⟩) ∧
      ((¬ ∀ record ∈ records, record.Fits Integer.usualLimit) →
        printed (Record.listToValue records) = .error (.setting .longInteger) ∧
          (Record.listToValue records).render = .error (.setting .longInteger))) ∧
    (∀ record : Record, record.Encodable →
      (record.Fits Integer.usualLimit →
        ∃ output body, SameData record.toValue record.toJson output body ∧
          ∀ (fresh : Ed25519.Seed) (app : App) (arrival : Http.Arrival) (request : Request)
            (text : Text), (app.node.createPost text).1 = .ok record → app.Posts request text →
            (Command.createPost (some text)).run fresh (.ok app.node) = .success output ∧
              (app.handle arrival request).1.response = ⟨200, some jsonType, [], body⟩) ∧
      (¬ record.Fits Integer.usualLimit →
        printed record.toValue = .error (.setting .longInteger) ∧
          record.toValue.render = .error (.setting .longInteger))) := by
  refine ⟨fun records hrecords => ⟨fun hfits => ?feed, fun hlong => ?longFeed⟩,
    fun record hrecord => ⟨fun hfits => ?single, fun hlong => ?longSingle⟩⟩
  case feed =>
    obtain ⟨output, body, hsame⟩ := exists_sameData (Record.toWire_listToValue hfits)
      (Record.legible_listToJson hrecords)
    exact ⟨output, body, hsame, fun fresh app arrival request hlist hrequest =>
      hsame.listed fresh hlist hrequest arrival⟩
  case longFeed =>
    have hwire := Record.toWire_listToValue_of_long hlong
    exact ⟨printed_of_fault hwire, Value.render_of_fault hwire⟩
  case single =>
    obtain ⟨output, body, hsame⟩ := exists_sameData (Record.toWire_toValue hfits)
      (Record.legible_toJson hrecord)
    exact ⟨output, body, hsame, fun fresh app arrival request text hcreated hrequest =>
      hsame.posted fresh hcreated hrequest arrival⟩
  case longSingle =>
    have hwire := Record.toWire_toValue_of_long hlong
    exact ⟨printed_of_fault hwire, Value.render_of_fault hwire⟩

/-! ## A feed and a post -/

/-- An interface in front of a node to which a peer delivered a post under another name. -/
def relayed : App := ⟨(Node.annsNode.setClock 5).run Node.relayActions, "secret", none⟩

theorem lists_relayed : relayed.Lists App.annsReading where
  method := rfl
  path := .inl rfl
  admitted := by
    change Http.checkToken "secret" (App.annsReading.header? "authorization") = .ok .granted
    decide

theorem listPosts_relayed : ∃ records, relayed.node.listPosts.1 = .ok records ∧
    (∀ record ∈ records, record.Encodable) ∧
    ∀ record ∈ records, record.Fits Integer.usualLimit := by
  have hstart : (Node.annsNode.setClock 5).Servable := @Node.servable_of_build "ann"
    (List.replicate 32 7) Node.ann 5 {} none (Node.annsNode.setClock 5) rfl rfl
  have hservable : relayed.node.Servable := by
    dsimp only [relayed]
    exact hstart.run Node.relayActions
  have hlist := Node.listPosts_eq hservable.coherent
    (Node.canRead_of_unlimited hservable.readable _)
  refine ⟨_, congrArg Prod.fst hlist, hservable.encodable_iff.mpr ?names,
    hservable.fits_iff.mpr ?arrivals⟩
  case names =>
    unfold relayed
    rw [Node.messages_of_annsRelay, List.forall_mem_cons, List.forall_mem_singleton]
    have heve : ("eve" : Text).Clean := by decide
    exact ⟨Bool.noConfusion, fun _ => heve⟩
  case arrivals =>
    unfold relayed
    rw [Node.messages_of_annsRelay, List.forall_mem_cons, List.forall_mem_singleton]
    exact ⟨by decide, by decide⟩

theorem createPost_quiet_written :
    ∃ record, (App.quiet.node.createPost "hello").1 = .ok record ∧ record.Encodable ∧
      record.Fits Integer.usualLimit := by
  obtain ⟨record, hcreated⟩ := App.createPost_quiet
  obtain ⟨fault, metrics, hrefused⟩ | ⟨post, hdraft, -, -, hstored⟩ :=
    Node.createPost_cases "hello" App.quiet.node
  · rw [hrefused] at hcreated
    cases hcreated
  · refine ⟨_, congrArg Prod.fst hstored, ?_⟩
    rw [App.record_of_draft hdraft]
    exact ⟨App.live_quiet.servable.encodable_of_draft hdraft,
      App.live_quiet.fits_of_draft hdraft⟩

theorem printed_and_answered_anns :
    (∀ record ∈ Record.diverse, record.Encodable) ∧
    (∃ output body, SameData (Record.listToValue Record.diverse)
      (.array (Record.diverse.map Record.toJson)) output body) ∧
    (∃ records output body, relayed.node.listPosts.1 = .ok records ∧
      SameData (Record.listToValue records) (.array (records.map Record.toJson)) output body ∧
      Command.listPosts.run Node.ann.seed (.ok relayed.node) = .success output ∧
      (relayed.handle App.annsArrival App.annsReading).1.response
        = ⟨200, some jsonType, [], body⟩) ∧
    (∃ record output body, (App.quiet.node.createPost "hello").1 = .ok record ∧
      SameData record.toValue record.toJson output body ∧
      (Command.createPost (some "hello")).run Node.ann.seed (.ok App.quiet.node)
        = .success output ∧
      (App.quiet.handle App.annsArrival App.annsRequest).1.response
        = ⟨200, some jsonType, [], body⟩) := by
  obtain ⟨hfeeds, hsingles⟩ := printed_and_answered
  refine ⟨Record.encodable_diverse, ?diverse, ?feed, ?single⟩
  case diverse =>
    obtain ⟨output, body, hsame, -⟩ :=
      (hfeeds Record.diverse Record.encodable_diverse).1 Record.fits_diverse
    exact ⟨output, body, hsame⟩
  case feed =>
    obtain ⟨records, hlist, hrecords, hfits⟩ := listPosts_relayed
    obtain ⟨output, body, hsame, hruns⟩ := (hfeeds records hrecords).1 hfits
    exact ⟨records, output, body, hlist, hsame,
      hruns Node.ann.seed relayed App.annsArrival App.annsReading hlist lists_relayed⟩
  case single =>
    obtain ⟨record, hcreated, hrecord, hfits⟩ := createPost_quiet_written
    obtain ⟨output, body, hsame, hruns⟩ := (hsingles record hrecord).1 hfits
    exact ⟨record, output, body, hcreated, hsame,
      hruns Node.ann.seed App.quiet App.annsArrival App.annsRequest "hello" hcreated
        App.posts_annsRequest⟩

end SignedBlog.CommandLine
