import Mathlib.Logic.Relation
import SignedBlog.Proofs.Sessions

/-!
Workers that add messages to one database.

A `Cluster` is a server with any number of workers, each of which makes one call after the other, with
clocks that need not agree. In a step one worker begins a call, makes its next request, or ends its call;
the steps of the workers follow each other in any order. A request may fail with or without having been
served, a connection may break and a worker may stop at any moment.

`Cluster.logged_of_run`: at every moment the messages that are committed are logged in the order in which
they were committed, none of them is lost later, and where a call has ended well its message is there.
-/

namespace SignedBlog.Database

set_option autoImplicit false

variable {ι : Type}

/-! ## Answers -/

section

variable [DecidableEq ι]

/-- How a request may be answered over a connection that may fail. -/
inductive Answered (i : ι) (server : Server ι) (request : Request) : Reply → Server ι → Prop where
  | served {reply : Reply} {next : Server ι} (hserved : Served i server request reply next) :
    Answered i server request reply next
  /-- The request is served, but its answer does not arrive. -/
  | unanswered {reply : Reply} {next : Server ι} {refusal : Refusal}
      (hserved : Served i server request reply next) : Answered i server request (.failed refusal) next
  /-- The request does not arrive. -/
  | unheard {refusal : Refusal} : Answered i server request (.failed refusal) server
  /-- The request is refused for a reason of the server's own, such as the wait for a lock. -/
  | refused {refusal : Refusal} (hactive : (server.session i).status = .active) :
    Answered i server request (.failed refusal) (server.abort i)

variable {server next : Server ι} {messages : List Stored} {phase : ι → Phase} {i : ι} {request : Request}
  {reply : Reply}

/-- The log only grows, and every worker is in some phase, the one that has asked in a phase that its
answer allows. -/
def Advances (server next : Server ι) (messages : List Stored) (phase : ι → Phase) (i : ι)
    (request : Request) (reply : Reply) : Prop :=
  ∃ later, messages <+: later ∧ server.committed .messages <+: next.committed .messages ∧
    Logged next later ∧ ∃ last, writer.answers (phase i) request reply last ∧
      ∀ j, Follows next later j (Function.update phase i last j)

theorem Moves.advances (hlogged : Logged server messages)
    (hfollows : ∀ j, Follows server messages j (phase j))
    (h : Moves server next messages i (phase i) request reply) :
    Advances server next messages phase i request reply := by
  obtain ⟨last, hanswers, hlast, hconfined⟩ := h
  refine ⟨messages, List.prefix_refl _, hconfined.committed ▸ List.prefix_refl _,
    hlogged.carry hconfined.committed hconfined.drawn, last, hanswers, ?_⟩
  rw [Function.forall_update_iff phase fun j => Follows next messages j]
  exact ⟨hlast, fun j hne => hconfined.follows hne (hfollows j)⟩

theorem Served.advances (hlogged : Logged server messages)
    (hfollows : ∀ j, Follows server messages j (phase j)) (hadmits : writer.admits (phase i) request)
    (h : Served i server request reply next) :
    Advances server next messages phase i request reply := by
  obtain hmoves | ⟨stored, hphase, hanswers, hactive, rfl⟩ := h.moves hlogged (hfollows i) hadmits
  · exact hmoves.advances hlogged hfollows
  · obtain ⟨hlog, hprefix, hown, hothers⟩ :=
      follows_publish hlogged (hphase ▸ hfollows i) hactive
    refine ⟨_, List.prefix_append _ _, hprefix, hlog, _, hanswers, ?_⟩
    rw [Function.forall_update_iff phase fun j => Follows (server.publish i) (messages ++ [stored]) j]
    exact ⟨hown, fun j hne => hothers j hne (phase j) (hfollows j)⟩

theorem Answered.advances (hlogged : Logged server messages)
    (hfollows : ∀ j, Follows server messages j (phase j)) (hadmits : writer.admits (phase i) request)
    (h : Answered i server request reply next) :
    Advances server next messages phase i request reply := by
  cases h with
  | served hserved => exact hserved.advances hlogged hfollows hadmits
  | unanswered hserved =>
    -- the worker may be in any phase after a failure
    obtain ⟨later, hgrows, hprefix, hlog, last, -, hall⟩ := hserved.advances hlogged hfollows hadmits
    exact ⟨later, hgrows, hprefix, hlog, last, trivial, hall⟩
  | unheard => exact (moves_of_failed (hfollows i) (.refl i server)).advances hlogged hfollows
  | refused => exact (moves_of_failed follows_abort (.setSession i _)).advances hlogged hfollows

/-- A session whose connection breaks can no longer publish anything. -/
theorem follows_lose {phase : Phase} (h : Follows server messages i phase) :
    Follows (server.lose i) messages i phase := by
  have hsession : (server.lose i).session i
      = { Session.fresh with status := .lost, rows := (server.session i).rows } :=
    (server.free i).session_setSession i _
  have hnone : (server.lose i).pendingMessages i = [] := by
    rw [Server.pendingMessages, hsession]
    rfl
  have hlost : ((server.lose i).session i).status = .lost := by rw [hsession]
  have hended {p : Prop} (hactive : ((server.lose i).session i).status = .active) : p := by
    rw [hlost] at hactive
    cases hactive
  cases phase with
  | outside => exact hnone
  | locked => exact ⟨hnone, hended⟩
  | asked =>
    obtain ⟨-, -, latest, hrows, -⟩ := h
    refine ⟨hnone, hended, latest, ?_, hended⟩
    rw [hsession]
    exact hrows
  | informed latest => exact ⟨hnone, hended, hended⟩
  | inserted stored => exact .inl ⟨hlost, hnone⟩
  | published stored => exact ⟨hnone, h.2⟩

end

/-! ## Runs -/

structure Call where
  store : PostStore
  clock : Int
  post : Post
  isLocal : Bool

namespace Call

def dialogue (call : Call) : Dialogue Header := call.store.addMessage call.clock call.post call.isLocal

/-- A call that ends well has its message published with the time that it tells. -/
def Goal (call : Call) (result : Except Fault Header) (phase : Phase) : Prop :=
  ∀ header, result = .ok header →
    ∃ time, phase = .published ⟨call.post, time, call.isLocal⟩ ∧ header = call.post.header time

theorem meets_writer (call : Call) (phase : Phase) : call.dialogue.Meets writer call.Goal phase :=
  call.store.addMessage_meets_writer call.clock call.post call.isLocal phase

end Call

/-- A server and its workers. A worker is in a call, of which so much is left, or it waits for one. -/
structure Cluster (ι : Type) where
  server : Server ι
  worker : ι → Option (Call × Dialogue Header)
  ended : List (Call × Except Fault Header)

namespace Cluster

/-- What is left of a call keeps to the phases, and comes to its goal. -/
def Expects (worker : Option (Call × Dialogue Header)) (phase : Phase) : Prop :=
  ∀ call rest, worker = some (call, rest) → rest.Meets writer call.Goal phase

theorem expects_none (phase : Phase) : Expects none phase := by
  rintro call rest ⟨⟩

theorem expects_some {call : Call} {rest : Dialogue Header} {phase : Phase}
    (h : rest.Meets writer call.Goal phase) : Expects (some (call, rest)) phase := by
  rintro call rest ⟨⟩
  exact h

/-- The messages that are committed, the phases of the workers, and what their calls will come to. -/
structure Consistent (cluster : Cluster ι) (messages : List Stored) (phase : ι → Phase) : Prop where
  logged : Logged cluster.server messages
  follows : ∀ i, Follows cluster.server messages i (phase i)
  expects : ∀ i, Expects (cluster.worker i) (phase i)
  ended : ∀ call header, (call, .ok header) ∈ cluster.ended →
    ∃ time, ⟨call.post, time, call.isLocal⟩ ∈ messages ∧ header = call.post.header time

variable {cluster next : Cluster ι} {messages : List Stored} {phase : ι → Phase}

/-- A call that ends well has come to its goal, so its message is there. -/
theorem Consistent.finish (h : cluster.Consistent messages phase) {i : ι} {call : Call}
    {result : Except Fault Header} (hworker : cluster.worker i = some (call, .finish result)) :
    Consistent { cluster with ended := (call, result) :: cluster.ended } messages phase := by
  refine ⟨h.logged, h.follows, h.expects, ?_⟩
  rintro other header hmem
  obtain ⟨rfl, hok⟩ | hmem := (List.mem_cons.mp hmem).imp_left Prod.mk.inj
  · have hgoal : other.Goal result (phase i) := h.expects i other _ hworker
    obtain ⟨time, hphase, hheader⟩ := hgoal header hok.symm
    have hfollows := h.follows i
    rw [hphase] at hfollows
    exact ⟨time, hfollows.2, hheader⟩
  · exact h.ended other header hmem

variable [DecidableEq ι]

def setWorker (cluster : Cluster ι) (i : ι) (worker : Option (Call × Dialogue Header)) : Cluster ι :=
  { cluster with worker := Function.update cluster.worker i worker }

inductive Step (cluster : Cluster ι) : Cluster ι → Prop where
  | begin {i : ι} (hidle : cluster.worker i = none) (call : Call) :
    Step cluster (cluster.setWorker i (some (call, call.dialogue)))
  | ask {i : ι} {call : Call} {request : Request} {resume : Reply → Dialogue Header} {reply : Reply}
      {next : Server ι} (hworker : cluster.worker i = some (call, .ask request resume))
      (hanswered : Answered i cluster.server request reply next) :
    Step cluster ({ cluster with server := next }.setWorker i (some (call, resume reply)))
  | finish {i : ι} {call : Call} {result : Except Fault Header}
      (hworker : cluster.worker i = some (call, .finish result)) :
    Step cluster ({ cluster with ended := (call, result) :: cluster.ended }.setWorker i none)
  /-- A worker stops, and its connection is left to the server. -/
  | stop (i : ι) : Step cluster (cluster.setWorker i none)
  | lose (i : ι) : Step cluster { cluster with server := cluster.server.lose i }
  /-- Others do something that is not about messages. -/
  | elsewhere {next : Server ι} (hsession : next.session = cluster.server.session)
      (hcommitted : next.committed .messages = cluster.server.committed .messages)
      (hdrawn : cluster.server.drawn .messages ≤ next.drawn .messages)
      (hholder : next.holder .messages = cluster.server.holder .messages) :
    Step cluster { cluster with server := next }

theorem expects_update {worker : ι → Option (Call × Dialogue Header)} {phase : ι → Phase}
    (h : ∀ j, Expects (worker j) (phase j)) (i : ι) {taken : Option (Call × Dialogue Header)}
    {last : Phase} (htaken : Expects taken last) (j : ι) :
    Expects (Function.update worker i taken j) (Function.update phase i last j) := by
  by_cases hsame : j = i
  · subst hsame
    rw [Function.update_self, Function.update_self]
    exact htaken
  · rw [Function.update_of_ne hsame, Function.update_of_ne hsame]
    exact h j

/-- A worker takes up something, with nobody asked. -/
theorem Consistent.setWorker (h : cluster.Consistent messages phase) {i : ι}
    {worker : Option (Call × Dialogue Header)} (hworker : Expects worker (phase i)) :
    (cluster.setWorker i worker).Consistent messages phase where
  logged := h.logged
  follows := h.follows
  expects j := by
    have hexpects := expects_update h.expects i hworker j
    rw [Function.update_eq_self] at hexpects
    exact hexpects
  ended := h.ended

theorem Consistent.lose (h : cluster.Consistent messages phase) (i : ι) :
    Consistent { cluster with server := cluster.server.lose i } messages phase := by
  have hconfined : Confined i cluster.server (cluster.server.lose i) := .lose i
  refine ⟨h.logged.carry hconfined.committed hconfined.drawn, fun j => ?_, h.expects, h.ended⟩
  by_cases hsame : j = i
  · rw [hsame]
    exact follows_lose (h.follows i)
  · exact hconfined.follows hsame (h.follows j)

/-- In a step the log only grows. -/
theorem Consistent.step (h : cluster.Consistent messages phase) (hstep : cluster.Step next) :
    ∃ later phase', messages <+: later ∧
      cluster.server.committed .messages <+: next.server.committed .messages ∧
      next.Consistent later phase' := by
  cases hstep with
  | begin hidle call =>
    exact ⟨messages, phase, List.prefix_refl _, List.prefix_refl _,
      h.setWorker (expects_some (call.meets_writer _))⟩
  | @ask i call request resume reply server hworker hanswered =>
    obtain ⟨hadmits, hresume⟩ := h.expects i call _ hworker
    obtain ⟨later, hgrows, hprefix, hlogged, last, hanswers, hfollows⟩ :=
      hanswered.advances h.logged h.follows hadmits
    refine ⟨later, Function.update phase i last, hgrows, hprefix, hlogged, hfollows,
      expects_update h.expects i (expects_some (hresume reply last hanswers)), ?_⟩
    intro call header hmem
    obtain ⟨time, hstored, hheader⟩ := h.ended call header hmem
    exact ⟨time, hgrows.subset hstored, hheader⟩
  | finish hworker =>
    exact ⟨messages, phase, List.prefix_refl _, List.prefix_refl _,
      (h.finish hworker).setWorker (expects_none _)⟩
  | stop i =>
    exact ⟨messages, phase, List.prefix_refl _, List.prefix_refl _, h.setWorker (expects_none _)⟩
  | lose i => exact ⟨messages, phase, List.prefix_refl _, List.prefix_refl _, h.lose i⟩
  | elsewhere hsession hcommitted hdrawn hholder =>
    refine ⟨messages, phase, List.prefix_refl _, hcommitted ▸ List.prefix_refl _,
      h.logged.carry hcommitted hdrawn, fun j => ?_, h.expects, h.ended⟩
    refine (h.follows j).bystand (congrFun hsession j) (List.Subset.refl _) fun _ hlock => ?_
    exact ⟨hholder.trans hlock, rfl, fun _ _ hextends => hextends.carry hcommitted hdrawn⟩

theorem Consistent.run (h : cluster.Consistent messages phase)
    (hrun : Relation.ReflTransGen Step cluster next) :
    ∃ later phase', messages <+: later ∧
      cluster.server.committed .messages <+: next.server.committed .messages ∧
      next.Consistent later phase' := by
  induction hrun with
  | refl => exact ⟨messages, phase, List.prefix_refl _, List.prefix_refl _, h⟩
  | tail _ hstep ih =>
    obtain ⟨earlier, _, hgrown, hprefix, hconsistent⟩ := ih
    obtain ⟨later, phase', hgrows, hnext, hlater⟩ := hconsistent.step hstep
    exact ⟨later, phase', hgrown.trans hgrows, hprefix.trans hnext, hlater⟩

/-- Whatever the workers do, one after the other or at once, and wherever they fail: the messages that are
committed are logged in the order of their commits, those that are committed stay, and a call that has ended
well has its message there, with the header that it told. -/
theorem logged_of_run {start before after : Cluster ι} (hidle : ∀ i, start.worker i = none)
    (hnone : ∀ i, start.server.pendingMessages i = []) (hended : start.ended = [])
    (hlogged : Logged start.server messages) (hbefore : Relation.ReflTransGen Step start before)
    (hafter : Relation.ReflTransGen Step before after) :
    ∃ earlier later, Logged before.server earlier ∧ Logged after.server later ∧
      messages <+: earlier ∧ earlier <+: later ∧
      before.server.committed .messages <+: after.server.committed .messages ∧
      ∀ call header, (call, .ok header) ∈ before.ended →
        ∃ time, ⟨call.post, time, call.isLocal⟩ ∈ earlier ∧ header = call.post.header time := by
  have hstart : start.Consistent messages fun _ => .outside := by
    refine ⟨hlogged, hnone, fun i => (hidle i).symm ▸ expects_none _, ?_⟩
    intro call header hmem
    rw [hended] at hmem
    cases hmem
  obtain ⟨earlier, phase, hgrown, -, hearlier⟩ := hstart.run hbefore
  obtain ⟨later, _, hgrows, hprefix, hlater⟩ := hearlier.run hafter
  exact ⟨earlier, later, hearlier.logged, hlater.logged, hgrown, hgrows, hprefix, hearlier.ended⟩

/-! ## Turns -/

/-- Whether a request waits for a lock that another session has. -/
def waits (server : Server ι) (i : ι) : Request → Bool
  | .execute statement =>
    match statement.command with
    | .lock table => (server.holder table).any fun j => j ≠ i
    | _ => false
  | _ => false

/-- A worker takes its turn, with a server that leaves no choice. -/
def turn (cluster : Cluster ι) (i : ι) : Cluster ι :=
  match cluster.worker i with
  | none => cluster
  | some (call, .finish result) =>
    { cluster with ended := (call, result) :: cluster.ended }.setWorker i none
  | some (call, .ask request resume) =>
    if waits cluster.server i request then cluster
    else
      let (reply, server) := cluster.server.respond i request
      { cluster with server }.setWorker i (some (call, resume reply))

theorem reaches_turn (cluster : Cluster ι) (i : ι) :
    Relation.ReflTransGen Step cluster (cluster.turn i) := by
  unfold turn
  split
  case h_1 => exact .refl
  case h_2 call result hworker => exact .single (.finish hworker)
  case h_3 call request resume hworker =>
    split
    case isTrue => exact .refl
    case isFalse hgoes =>
      refine .single (.ask hworker (.served (Server.served_respond ?_)))
      rintro statement table rfl hlock j hholder
      by_contra hne
      simp [waits, hlock, hholder, hne] at hgoes

theorem reaches_turns (cluster : Cluster ι) (turns : List ι) :
    Relation.ReflTransGen Step cluster (turns.foldl turn cluster) := by
  induction turns generalizing cluster with
  | nil => exact .refl
  | cons i turns ih => exact (cluster.reaches_turn i).trans (ih _)

/-- Two workers that wait, and a blog. -/
def quiet : Cluster Bool where
  server := { Server.blank with
    hasTables := true
    committed := fun
      | .blogs => [⟨1, Blog.cells ⟨[3], ⟨1, [1], "ann", [2]⟩⟩⟩]
      | .messages => [] }
  worker _ := none
  ended := []

def sent (messageId : Bytes) (clock : Int) : Call :=
  ⟨{}, clock, ⟨messageId, [3], none, ⟨1, [1], "ann", [2]⟩, 7, "hello", [5]⟩, true⟩

/-- Both workers begin a call; the second one's clock is behind. -/
def begun : Cluster Bool :=
  (quiet.setWorker true (some (sent [4] 9, (sent [4] 9).dialogue))).setWorker false
    (some (sent [6] 8, (sent [6] 8).dialogue))

def arrivals (server : Server Bool) : List Int :=
  (server.committed .messages).filterMap fun tuple => integer? (tuple.cells .timeReceived)

def rounds (n : Nat) : List Bool := (List.replicate n [true, false]).flatten

theorem reaches_begun : Relation.ReflTransGen Step quiet begun :=
  (Relation.ReflTransGen.single (.begin rfl (sent [4] 9))).tail (.begin rfl (sent [6] 8))

theorem logged_quiet : Logged quiet.server [] where
  cells := rfl
  numbered := .nil _
  arrivals_rise := .nil
  messageIds_nodup := .nil

/-- The first worker has committed when the second one still waits, and then the second one commits. -/
theorem logged_of_run_rounds :
    let before := (rounds 11).foldl turn begun
    let after := (rounds 13).foldl turn before
    (∀ i, quiet.worker i = none) ∧ (∀ i, quiet.server.pendingMessages i = []) ∧ quiet.ended = [] ∧
      Logged quiet.server [] ∧ Relation.ReflTransGen Step quiet before ∧
      Relation.ReflTransGen Step before after ∧
      arrivals before.server = [9] ∧ arrivals after.server = [9, 9] ∧
      ∃ earlier later, Logged before.server earlier ∧ Logged after.server later ∧
        [] <+: earlier ∧ earlier <+: later ∧
        before.server.committed .messages <+: after.server.committed .messages ∧
        ∀ call header, (call, .ok header) ∈ before.ended →
          ∃ time, ⟨call.post, time, call.isLocal⟩ ∈ earlier ∧ header = call.post.header time := by
  have hbefore := reaches_begun.trans (reaches_turns begun (rounds 11))
  have hafter := reaches_turns ((rounds 11).foldl turn begun) (rounds 13)
  exact ⟨fun _ => rfl, fun _ => rfl, rfl, logged_quiet, hbefore, hafter, by decide +kernel,
    by decide +kernel, logged_of_run (fun _ => rfl) (fun _ => rfl) rfl logged_quiet hbefore hafter⟩

end Cluster

end SignedBlog.Database
