import Mathlib.Data.List.Sort
import Mathlib.Logic.Function.Basic
import SignedBlog.Proofs.Tables

/-!
A database server, as far as its clients may rely on it.

The server has tables, a lock for each of them, and a session for each client. What a transaction
writes stays with its session until it is published. `Served` tells how a request may be served:

* a search sees everything that is published when it runs, and what its own session has written;
* the lock of a table is given to one session at a time, and kept until the transaction ends;
* a row gets a number greater than any that was drawn for its table, and a number that is drawn is
  spent, whatever becomes of the row;
* a row is refused if a cell does not go into its column, if it refers to a blog that is not there, or
  if its session sees its key already, which has a code of its own; after a refusal only the end of the
  transaction is served, and nothing of it is published.

`respond` is a server that does all this and leaves no choice.
-/

namespace SignedBlog.Database

set_option autoImplicit false

inductive Status where
  | active
  /-- A statement was refused. -/
  | failed
  | lost
deriving DecidableEq

/-- A connection of a client, with what its transaction has done. -/
structure Session where
  pending : Table → List Tuple
  creates : Bool
  status : Status
  /-- What the last search told. -/
  rows : List Row

def Session.fresh : Session := ⟨fun _ => [], false, .active, []⟩

structure Server (ι : Type) where
  hasTables : Bool
  committed : Table → List Tuple
  /-- The greatest number that was drawn for a row. -/
  drawn : Table → Int
  /-- Who holds the lock of a table. -/
  holder : Table → Option ι
  session : ι → Session

namespace Server

section

variable {ι : Type} (server : Server ι) (i : ι)

/-! ## What a session sees -/

def visible (table : Table) : List Tuple :=
  server.committed table ++ (server.session i).pending table

def sees : Bool := server.hasTables || (server.session i).creates

def repeats (table : Table) (cells : Cells) : Bool :=
  (server.visible i table).any fun tuple => sameBytes (tuple.cells table.key) (cells table.key)

/-- Whether the blogs are there that a row refers to. -/
def resolves (table : Table) (cells : Cells) : Bool :=
  table.columns.all fun column => !table.refers column ||
    (server.visible i .blogs).any fun tuple => sameBytes (tuple.cells Table.blogs.key) (cells column)

/-- The rows that a search finds, by their numbers if it asks for an order. -/
def find (search : Search) (given : Row) : List Tuple :=
  let found := (server.visible i search.table).filter fun tuple => tuple.cells.agree search.given given
  if search.isOrdered then found.mergeSort fun a b => decide (a.seq ≤ b.seq) else found

theorem find_finds (search : Search) (given : Row) :
    search.Finds given (server.visible i search.table) (server.find i search given) := by
  unfold find
  by_cases hordered : search.isOrdered = true
  · rw [if_pos hordered]
    refine ⟨List.mergeSort_perm _ _, fun _ => ?_⟩
    have hsorted := @List.pairwise_mergeSort Tuple (fun a b => decide (a.seq ≤ b.seq))
      (fun a b c hab hbc => by simp only [decide_eq_true_eq] at *; omega)
      (fun a b => by simp only [Bool.or_eq_true, decide_eq_true_eq]; omega)
      ((server.visible i search.table).filter fun tuple => tuple.cells.agree search.given given)
    exact hsorted.imp of_decide_eq_true
  · rw [if_neg hordered]
    exact ⟨.refl _, fun h => absurd h hordered⟩

end

/-! ## What becomes of a server -/

variable {ι : Type} [DecidableEq ι] (server : Server ι) (i : ι)

def setSession (session : Session) : Server ι :=
  { server with session := Function.update server.session i session }

/-- The server once a client has given its locks back. -/
def free : Server ι :=
  { server with
    holder := fun table => if server.holder table = some i then none else server.holder table }

/-- The transaction ends, and nothing of it is left. -/
def discard : Server ι := (server.free i).setSession i .fresh

/-- The transaction ends, and everybody sees what it has written. -/
def publish : Server ι :=
  { server.discard i with hasTables := server.sees i, committed := server.visible i }

/-- What the transaction has written is dropped, and nothing more is done in it. -/
def abort : Server ι :=
  server.setSession i { Session.fresh with status := .failed, rows := (server.session i).rows }

def lose : Server ι :=
  (server.free i).setSession i
    { Session.fresh with status := .lost, rows := (server.session i).rows }

def create : Server ι := server.setSession i { server.session i with creates := true }

def lock (table : Table) : Server ι :=
  { server with holder := Function.update server.holder table (some i) }

def draw (table : Table) (seq : Int) : Server ι :=
  { server with drawn := Function.update server.drawn table seq }

def write (table : Table) (tuple : Tuple) : Server ι :=
  (server.draw table tuple.seq).setSession i { server.session i with
    pending := Function.update (server.session i).pending table
      ((server.session i).pending table ++ [tuple]) }

def answer (rows : List Row) : Server ι := server.setSession i { server.session i with rows }

@[simp] theorem session_setSession (session : Session) :
    (server.setSession i session).session i = session := by
  simp [setSession]

theorem session_setSession_of_ne {j : ι} (hne : j ≠ i) (session : Session) :
    (server.setSession i session).session j = server.session j := by
  simp [setSession, hne]

theorem rows_answer (rows : List Row) : ((server.answer i rows).session i).rows = rows := by
  rw [answer, session_setSession]

theorem status_write (table : Table) (tuple : Tuple) :
    ((server.write i table tuple).session i).status = (server.session i).status := by
  rw [write, session_setSession]

theorem status_abort : ((server.abort i).session i).status = .failed := by
  rw [abort, session_setSession]

end Server

/-! ## Serving -/

section

variable {ι : Type} [DecidableEq ι]

/-- The code of a refusal because a key is there already. -/
def repetitionCode : Text := "23505"

/-- How a command may be carried out in a transaction. What is answered to a command that tells
nothing does not matter. -/
inductive Carried (i : ι) (server : Server ι) : Command → Row → Reply → Server ι → Prop where
  | set {timeout : Text} {millis : Int} {given : Row} {rows : List Row} :
    Carried i server (.set timeout millis) given (.done rows) server
  | create {given : Row} {rows : List Row} :
    Carried i server .create given (.done rows) (server.create i)
  | absent {command : Command} {given : Row} {refusal : Refusal} (hnone : server.sees i = false)
      (htable : command ≠ .create) (htimeout : ∀ timeout millis, command ≠ .set timeout millis) :
    Carried i server command given (.failed refusal) (server.abort i)
  | lock {table : Table} {given : Row} {rows : List Row} (hthere : server.sees i = true)
      (hfree : ∀ j, server.holder table = some j → j = i) :
    Carried i server (.lock table) given (.done rows) (server.lock i table)
  | insert {table : Table} {columns : List Column} {skips : Bool} {given : Row} {rows : List Row}
      {seq : Int} (hthere : server.sees i = true) (hseq : server.drawn table < seq)
      (htakes : table.takes (.ofRow columns given) = true)
      (hresolves : server.resolves i table (.ofRow columns given) = true)
      (hnew : server.repeats i table (.ofRow columns given) = false) :
    Carried i server (.insert table columns skips) given (.done rows)
      (server.write i table ⟨seq, .ofRow columns given⟩)
  | skip {table : Table} {columns : List Column} {given : Row} {rows : List Row} {seq : Int}
      (hthere : server.sees i = true) (hseq : server.drawn table ≤ seq)
      (hknown : server.repeats i table (.ofRow columns given) = true) :
    Carried i server (.insert table columns true) given (.done rows) (server.draw table seq)
  | repeated {table : Table} {columns : List Column} {given : Row} {refusal : Refusal} {seq : Int}
      (hthere : server.sees i = true) (hseq : server.drawn table ≤ seq)
      (hknown : server.repeats i table (.ofRow columns given) = true)
      (hcode : refusal.code = some repetitionCode) :
    Carried i server (.insert table columns false) given (.failed refusal)
      ((server.draw table seq).abort i)
  | invalid {table : Table} {columns : List Column} {skips : Bool} {given : Row} {refusal : Refusal}
      {seq : Int} (hthere : server.sees i = true) (hseq : server.drawn table ≤ seq)
      (hinvalid : (table.takes (.ofRow columns given) &&
        server.resolves i table (.ofRow columns given)) = false) :
    Carried i server (.insert table columns skips) given (.failed refusal)
      ((server.draw table seq).abort i)
  | select {search : Search} {given : Row} {rows : List Row} {found : List Tuple}
      (hthere : server.sees i = true)
      (hfinds : search.Finds given (server.visible i search.table) found) :
    Carried i server (.select search) given (.done rows)
      (server.answer i (search.selection.rows (found.map Tuple.cells)))

/-- How a request of a client may be served. -/
inductive Served (i : ι) (server : Server ι) : Request → Reply → Server ι → Prop where
  | connect {rows : List Row} : Served i server .connect (.done rows) (server.discard i)
  | openCursor {rows : List Row} : Served i server .openCursor (.done rows) server
  | execute {statement : Statement} {reply : Reply} {next : Server ι}
      (hactive : (server.session i).status = .active)
      (hcarried : Carried i server statement.command statement.parameters reply next) :
    Served i server (.execute statement) reply next
  | refuse {statement : Statement} {refusal : Refusal}
      (hended : (server.session i).status ≠ .active) :
    Served i server (.execute statement) (.failed refusal) server
  | fetch : Served i server .fetch (.done (server.session i).rows) server
  | commit {rows : List Row} (hactive : (server.session i).status = .active) :
    Served i server .commit (.done rows) (server.publish i)
  | commitFailed {rows : List Row} (hfailed : (server.session i).status = .failed) :
    Served i server .commit (.done rows) (server.discard i)
  | commitLost {refusal : Refusal} (hlost : (server.session i).status = .lost) :
    Served i server .commit (.failed refusal) server
  | rollback {rows : List Row} (hthere : (server.session i).status ≠ .lost) :
    Served i server .rollback (.done rows) (server.discard i)
  | rollbackLost {refusal : Refusal} (hlost : (server.session i).status = .lost) :
    Served i server .rollback (.failed refusal) server
  | closeCursor {rows : List Row} : Served i server .closeCursor (.done rows) server
  | close {rows : List Row} : Served i server .close (.done rows) (server.discard i)

/-! ## What an answer tells -/

section

variable {i : ι} {server next : Server ι} {given : Row} {reply : Reply}

theorem Carried.of_select {search : Search} (h : Carried i server (.select search) given reply next)
    (hthere : server.sees i = true) :
    ∃ rows found, search.Finds given (server.visible i search.table) found ∧ reply = .done rows ∧
      next = server.answer i (search.selection.rows (found.map Tuple.cells)) := by
  cases h with
  | absent hnone => exact absurd (hthere.symm.trans hnone) (by simp)
  | select _ hfinds => exact ⟨_, _, hfinds, rfl, rfl⟩

theorem Carried.of_lock {table : Table} (h : Carried i server (.lock table) given reply next)
    (hthere : server.sees i = true) : ∃ rows, reply = .done rows ∧ next = server.lock i table := by
  cases h with
  | absent hnone => exact absurd (hthere.symm.trans hnone) (by simp)
  | lock => exact ⟨_, rfl, rfl⟩

/-- A row that goes into its table is written if its key is new. -/
theorem Carried.of_insert {table : Table} {columns : List Column} {skips : Bool}
    (h : Carried i server (.insert table columns skips) given reply next)
    (hthere : server.sees i = true) (htakes : table.takes (.ofRow columns given) = true)
    (hresolves : server.resolves i table (.ofRow columns given) = true) :
    (server.repeats i table (.ofRow columns given) = false ∧
      ∃ rows seq, server.drawn table < seq ∧ reply = .done rows ∧
        next = server.write i table ⟨seq, .ofRow columns given⟩) ∨
    (server.repeats i table (.ofRow columns given) = true ∧
      ∃ seq, server.drawn table ≤ seq ∧
        (skips = true ∧ (∃ rows, reply = .done rows) ∧ next = server.draw table seq ∨
          skips = false ∧ (∃ refusal, refusal.code = some repetitionCode ∧ reply = .failed refusal) ∧
            next = (server.draw table seq).abort i)) := by
  cases h with
  | absent hnone => exact absurd (hthere.symm.trans hnone) (by simp)
  | insert _ hseq _ _ hnew => exact .inl ⟨hnew, _, _, hseq, rfl, rfl⟩
  | skip _ hseq hknown => exact .inr ⟨hknown, _, hseq, .inl ⟨rfl, ⟨_, rfl⟩, rfl⟩⟩
  | repeated _ hseq hknown hcode => exact .inr ⟨hknown, _, hseq, .inr ⟨rfl, ⟨_, hcode, rfl⟩, rfl⟩⟩
  | invalid _ _ hinvalid => simp [htakes, hresolves] at hinvalid

end

/-! ## A server without choices -/

namespace Server

variable (i : ι) (server : Server ι)

def blank : Server ι := ⟨false, fun _ => [], fun _ => 0, fun _ => none, fun _ => .fresh⟩

def carry : Command → Row → Reply × Server ι
  | .set _ _, _ => (.done [], server)
  | .create, _ => (.done [], server.create i)
  | .lock table, _ =>
    if server.sees i then (.done [], server.lock i table)
    else (.failed ⟨some "42P01", "no table"⟩, server.abort i)
  | .insert table columns skips, given =>
    let cells := Cells.ofRow columns given
    let seq := server.drawn table + 1
    if !server.sees i then (.failed ⟨some "42P01", "no table"⟩, server.abort i)
    else if !(table.takes cells && server.resolves i table cells) then
      (.failed ⟨some "22000", "invalid row"⟩, (server.draw table seq).abort i)
    else if server.repeats i table cells then
      if skips then (.done [], server.draw table seq)
      else (.failed ⟨some repetitionCode, "repeated key"⟩, (server.draw table seq).abort i)
    else (.done [], server.write i table ⟨seq, cells⟩)
  | .select search, given =>
    if server.sees i then
      (.done [], server.answer i (search.selection.rows ((server.find i search given).map Tuple.cells)))
    else (.failed ⟨some "42P01", "no table"⟩, server.abort i)

def respond : Request → Reply × Server ι
  | .connect | .close => (.done [], server.discard i)
  | .openCursor | .closeCursor => (.done [], server)
  | .execute statement =>
    if (server.session i).status = .active then server.carry i statement.command statement.parameters
    else (.failed ⟨some "25P02", "transaction aborted"⟩, server)
  | .fetch => (.done (server.session i).rows, server)
  | .commit =>
    match (server.session i).status with
    | .active => (.done [], server.publish i)
    | .failed => (.done [], server.discard i)
    | .lost => (.failed ⟨none, "connection lost"⟩, server)
  | .rollback =>
    if (server.session i).status = .lost then (.failed ⟨none, "connection lost"⟩, server)
    else (.done [], server.discard i)

variable {server i}

theorem carried_carry {command : Command}
    (hfree : ∀ table, command = .lock table → ∀ j, server.holder table = some j → j = i) (given : Row) :
    Carried i server command given (server.carry i command given).1 (server.carry i command given).2 := by
  cases hthere : server.sees i with
  | false =>
    cases command with
    | set timeout millis => exact .set
    | create => exact .create
    | _ =>
      simp only [carry, hthere]
      exact .absent hthere (by simp) (by simp)
  | true =>
    cases command with
    | set timeout millis => exact .set
    | create => exact .create
    | lock table =>
      simp only [carry, hthere]
      exact .lock hthere (hfree table rfl)
    | select search =>
      simp only [carry, hthere]
      exact .select hthere (server.find_finds i search given)
    | insert table columns skips =>
      have hle : server.drawn table ≤ server.drawn table + 1 := by omega
      cases hvalid : table.takes (.ofRow columns given) &&
          server.resolves i table (.ofRow columns given) with
      | false =>
        simp only [carry, hthere, hvalid]
        exact .invalid hthere hle hvalid
      | true =>
        cases hknown : server.repeats i table (.ofRow columns given) with
        | true =>
          cases skips <;> simp only [carry, hthere, hvalid, hknown]
          · exact .repeated hthere hle hknown rfl
          · exact .skip hthere hle hknown
        | false =>
          simp only [carry, hthere, hvalid, hknown]
          rw [Bool.and_eq_true] at hvalid
          exact .insert hthere (by omega) hvalid.1 hvalid.2 hknown

/-- Such a server serves a client as it should, unless the client asks for a lock that another holds. -/
theorem served_respond {request : Request}
    (hfree : ∀ statement table, request = .execute statement → statement.command = .lock table →
      ∀ j, server.holder table = some j → j = i) :
    Served i server request (server.respond i request).1 (server.respond i request).2 := by
  cases request with
  | connect => exact .connect
  | openCursor => exact .openCursor
  | fetch => exact .fetch
  | closeCursor => exact .closeCursor
  | close => exact .close
  | execute statement =>
    by_cases hactive : (server.session i).status = .active
    · simp only [respond, if_pos hactive]
      exact .execute hactive (carried_carry (fun table => hfree statement table rfl) _)
    · simp only [respond, if_neg hactive]
      exact .refuse hactive
  | commit =>
    cases hstatus : (server.session i).status <;> simp only [respond, hstatus]
    · exact .commit hstatus
    · exact .commitFailed hstatus
    · exact .commitLost hstatus
  | rollback =>
    by_cases hlost : (server.session i).status = .lost
    · simp only [respond, if_pos hlost]
      exact .rollbackLost hlost
    · simp only [respond, if_neg hlost]
      exact .rollback hlost

end Server

end

end SignedBlog.Database
