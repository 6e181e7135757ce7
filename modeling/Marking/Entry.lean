/-
# Marking.Entry -- the queue of one marker and its retry loop

An entry queues the pieces of work found for one marker.  `attempt` processes one of
them: a success leaves the queue, a failure stays and is remembered, and any other
fault goes through.  `processAll` retries the queue pass after pass, because one
piece of work may wait for what another one makes; it stops when the queue is empty
or when a pass leaves the queue as long as it was.

Processing may queue further work on the entry, so nothing bounds the number of
passes in general and the loop has fuel.  Without such work every pass but the last
shortens the queue, and the length of the queue is fuel enough.
-/
import Marking.World

set_option autoImplicit false

namespace Marking

class Work (δ : Type) where
  serial : δ → Nat
  key : δ → UnitKey

inductive EntryState where
  | pending
  | retrying
  | stalled
  | complete
  deriving DecidableEq, Repr

def EntryState.word : EntryState → String
  | pending => "pending"
  | retrying => "retrying"
  | stalled => "stalled"
  | complete => "complete"

/-- The work queued for one marker. -/
structure Entry (δ : Type) where
  marker : MarkerType
  queue : List δ := []
  /-- The latest failure of a piece of work, by its serial number. -/
  failures : List (Nat × Failure) := []
  state : EntryState := .pending
  passes : Nat := 0
  succeeded : Nat := 0
  /-- By how much the latest run of `processAll` shortened the queue. -/
  removed : Int := 0

namespace Entry

def source : String := "core.entry"

variable {σ δ : Type}

/-- Processes a piece of work: its result, the work that it queued, and the world. -/
abbrev Process (σ δ : Type) := δ → World σ → Except Fault Bool × List δ × World σ

def name (e : Entry δ) : String := e.marker.name

def add (e : Entry δ) (d : δ) : Entry δ :=
  { e with
    queue := e.queue ++ [d]
    state := if e.state = .complete then .pending else e.state }

def addAll (e : Entry δ) (ds : List δ) : Entry δ := ds.foldl add e

/-- Removes the first element that passes the test. -/
def removeFirst (test : δ → Bool) : List δ → List δ
  | [] => []
  | d :: ds => if test d then ds else d :: removeFirst test ds

/-- Remembers a failure as the latest one under a serial number. -/
def remember (e : Entry δ) (serial : Nat) (f : Failure) : Entry δ :=
  { e with failures := (serial, f) :: e.failures.filter fun p => p.1 != serial }

def failureOf? (e : Entry δ) (serial : Nat) : Option Failure := e.failures.lookup serial

/-- Nothing is queued. -/
def isComplete (e : Entry δ) : Bool := e.queue.isEmpty

variable [Work δ]

/-- Takes a finished piece of work out of the queue. -/
def finish (e : Entry δ) (d : δ) : Entry δ :=
  let queue := removeFirst (fun x => Work.serial x == Work.serial d) e.queue
  { e with
    queue
    failures := e.failures.filter fun p => p.1 != Work.serial d
    succeeded := e.succeeded + 1
    state := if queue.isEmpty then .complete else e.state }

/-- The failure of work whose handler just says that it is not done. -/
def notProcessed (k : UnitKey) : Failure :=
  ⟨"handler reported the declaration as not processed", some k⟩

def attempt (process : Process σ δ) (e : Entry δ) (d : δ) (w : World σ) :
    Except Fault Bool × Entry δ × World σ :=
  let (result, queued, w) := process d w
  let e := e.addAll queued
  match result with
  | .ok true => (.ok true, e.finish d, w)
  | .ok false => (.ok false, e.remember (Work.serial d) (notProcessed (Work.key d)), w)
  | .error (.injection f) =>
    (.ok false, e.remember (Work.serial d) (f.withKey (Work.key d)),
      w.note [.debug source ("@" ++ e.name ++ " " ++ (Work.key d).name ++ ": " ++ f.message)])
  | .error f => (.error f, e, w)

/-- Attempts several pieces of work in turn, up to the first fault. -/
def attemptAll (process : Process σ δ) (e : Entry δ) : List δ → World σ →
    Except Fault Unit × Entry δ × World σ
  | [], w => (.ok (), e, w)
  | d :: ds, w =>
    match e.attempt process d w with
    | (.ok _, e, w) => e.attemptAll process ds w
    | (.error f, e, w) => (.error f, e, w)

/-- One pass over the queue as it stands. -/
def pass (process : Process σ δ) (e : Entry δ) (w : World σ) :
    Except Fault Unit × Entry δ × World σ :=
  let start := e.queue.length
  let e := { e with state := .retrying, passes := e.passes + 1 }
  match e.attemptAll process e.queue w with
  | (.error f, e, w) => (.error f, e, w)
  | (.ok (), e, w) =>
    (.ok (), e, w.note [.debug source ("@" ++ e.name ++ " pass " ++ toString e.passes ++ ": " ++
      toString e.queue.length ++ " of " ++ toString start ++ " delegate(s) remaining")])

/-- Passes over the queue until it is empty or a pass leaves its length as it was. -/
def passesWith (process : Process σ δ) : (fuel : Nat) → Entry δ → World σ →
    Except Fault Unit × Entry δ × World σ
  | 0, e, w => if e.queue.isEmpty then (.ok (), e, w) else (.error .endless, e, w)
  | fuel + 1, e, w =>
    if e.queue.isEmpty then (.ok (), e, w)
    else
      match e.pass process w with
      | (.error f, e', w) => (.error f, e', w)
      | (.ok (), e', w) =>
        if e'.queue.length = e.queue.length then (.ok (), e', w)
        else passesWith process fuel e' w

/-- The end of a run over the queue that began with `initial` pieces of work. -/
def conclude (initial : Nat) (e : Entry δ) (w : World σ) : Bool × Entry δ × World σ :=
  let e := { e with removed := (initial : Int) - e.queue.length }
  if e.queue.isEmpty then (true, { e with state := .complete }, w)
  else
    (false, { e with state := .stalled },
      w.note [.debug source ("@" ++ e.name ++ " reached a fixed point with " ++
        toString e.queue.length ++ " unprocessed delegate(s)")])

/-- Retries the queue until everything is done or a pass changes nothing.  Failures
from before are forgotten. -/
def processAll (process : Process σ δ) (fuel : Nat) (e : Entry δ) (w : World σ) :
    Except Fault Bool × Entry δ × World σ :=
  let initial := e.queue.length
  match passesWith process fuel { e with failures := [] } w with
  | (.error f, e, w) => (.error f, e, w)
  | (.ok (), e, w) =>
    let (done, e, w) := conclude initial e w
    (.ok done, e, w)

/-- The queued work whose latest attempt failed. -/
def failed (e : Entry δ) : List δ :=
  e.queue.filter fun d => (e.failureOf? (Work.serial d)).isSome

/-- The latest failures of the queued work, in the order of the queue. -/
def errors (e : Entry δ) : List Failure :=
  e.queue.filterMap fun d => e.failureOf? (Work.serial d)

def pendingKeys (e : Entry δ) : List UnitKey := e.queue.map Work.key

def summary (e : Entry δ) : String :=
  "ProcessingEntry(@" ++ e.name ++ ", state=" ++ e.state.word ++ ", pending=" ++
    toString e.queue.length ++ ")"

end Entry

end Marking
