import CloudApi.Client.Error

/-!
# Waiting on a virtual clock

A wait checks a state again and again until it is accepted. The first check happens at once;
each later one first pauses until the interval has passed or the deadline has come, whichever is
sooner. Every check and every pause is a race of three parties in a fixed priority: an outside
canceller, the deadline, and the step itself. So a check finishing exactly at the deadline loses
to it.

The clock is data: instants are milliseconds, and a wait is a fold over its checks. The one
subtle point is the canceller, which sets its alarm only once the waiter first has to wait.
Alarms ring in the order they were set, so at one instant the waiter's first alarms ring before
the canceller's, and every later alarm of the waiter rings after it.

A race already lost when a check is due, to a rung alarm or a deadline that has come, ends the
wait before the check starts. A check that goes out on the network finishes only after the
event loop has turned once. So it loses a tie to the canceller, and of what it does only the
part before its first wait has happened if it loses. `Probe.settle` is the rest.

`Wait.race` settles one race; `Wait.run` is the whole wait.

The clock names instants in whole seconds counted in a signed 64-bit number. A wait computes its
deadline, `start + timeout`, as it begins, and a wake-up, `now + interval`, before each pause. It
keeps the latest of these (`Progress.reach`); one past the clock's range (`fits`) stops the
program.
-/

namespace CloudApi.Wait

/-- How one wait is timed, in milliseconds: the pause between checks, the deadline measured from
the start, and when an outside party cancels it, if one does (measured from the start too). -/
structure Schedule where
  interval : Nat
  timeout : Nat
  cancelAfter : Option Nat := none
  deriving Repr, Inhabited

/-- Where the outside canceller stands: absent, not yet armed, armed to ring at an instant, or
already rung. -/
inductive Alarm where
  | silent
  | unarmed (instant : Nat)
  | armed (instant : Nat)
  | rung
  deriving Repr, BEq, Inhabited

/-- Who won a race. -/
inductive Winner where
  | cancel
  | deadline
  | step
  deriving Repr, BEq, DecidableEq, Inhabited

/-- The end of one race: who won, when, and where the canceller stands afterwards. -/
structure Race where
  winner : Winner
  time : Nat
  alarm : Alarm
  deriving Repr, Inhabited

/-- The race a rung alarm or a deadline already due decides before a step starts. -/
def decided (alarm : Alarm) (now deadline : Nat) : Option Winner :=
  if alarm == .rung then some .cancel
  else if deadline ≤ now then some .deadline
  else none

/-- Settle a race begun at `now` between the canceller, the deadline and a step that is done at
`finish`. A step `yields` when it waits on the event loop rather than on a timer of its own.

A race `decided` at once stays so. Otherwise a step already done wins at once, unless it yields.
Otherwise the waiter has to wait: an unarmed canceller arms now, after the waiter's own alarms,
and the first instant at which anyone is due decides. There the canceller goes first unless its
alarm was set after the waiter's and the waiter's own alarm is due; a step that yields has no
alarm of its own. -/
def race (alarm : Alarm) (now deadline finish : Nat) (yields : Bool := false) : Race :=
  match decided alarm now deadline with
  | some w => ⟨w, now, if w == .cancel then .rung else alarm⟩
  | none =>
    if finish ≤ now && !yields then ⟨.step, now, alarm⟩
    else
      let (ring, waiterFirst) : Option Nat × Bool := match alarm with
        | .unarmed t => (some t, true)
        | .armed t => (some t, false)
        | _ => (none, false)
      let armed := match ring with
        | some t => Alarm.armed t
        | none => Alarm.silent
      let due := match ring with
        | some t => min t (min deadline finish)
        | none => min deadline finish
      let ownDue := deadline == due || (!yields && finish == due)
      if ring == some due && (!waiterFirst || !ownDue) then ⟨.cancel, due, .rung⟩
      else if deadline == due then ⟨.deadline, due, armed⟩
      else ⟨.step, due, armed⟩

/-- One check's answer: how long it took, what it found, whether it went out on the network, and
what it does after its first wait, which happens only if it wins its race. -/
structure Probe (m : Type → Type) (α : Type) where
  delay : Nat
  result : Except ClientError α
  yields : Bool := false
  settle : m Unit

/-- Where a wait stands: the instant, the canceller, how many checks have begun, and the latest
instant it has computed. -/
structure Progress where
  now : Nat
  alarm : Alarm
  checks : Nat := 0
  reach : Nat := 0
  deriving Repr, Inhabited

/-- The error a lost race ends a wait with. -/
def lost (what : String) (s : Schedule) : Winner → ClientError
  | .cancel => .cancelled what
  | _ => .pollTimeout what (Span.ofMillis s.timeout)

section Run

variable {m : Type → Type} [Monad m] {α : Type}

/-- Check, then pause and check again, until a check is accepted, fails or loses its race, with
at most `fuel` more checks. The deadline is an instant; `probe` is given the instant a check
starts at. -/
def checkFrom (what : String) (s : Schedule) (deadline : Nat) (probe : Nat → m (Probe m α))
    (accept : α → Bool) : Nat → Progress → m (Except ClientError α × Progress)
  | 0, p => pure (.error (lost what s .deadline), p)
  | fuel + 1, p => do
    let p := { p with checks := p.checks + 1 }
    match decided p.alarm p.now deadline with
    | some w => pure (.error (lost what s w), { p with alarm := if w == .cancel then .rung else p.alarm })
    | none =>
      let found ← probe p.now
      let r := race p.alarm p.now deadline (p.now + found.delay) found.yields
      let p := { p with now := r.time, alarm := r.alarm }
      match r.winner with
      | .cancel | .deadline => pure (.error (lost what s r.winner), p)
      | .step =>
        found.settle
        match found.result with
        | .error e => pure (.error e, p)
        | .ok v =>
          if accept v then pure (.ok v, p)
          else
            let p := { p with reach := max p.reach (p.now + s.interval) }
            let wake := min (p.now + s.interval) deadline
            let r := race p.alarm p.now deadline wake
            let p := { p with now := r.time, alarm := r.alarm }
            match r.winner with
            | .cancel | .deadline => pure (.error (lost what s r.winner), p)
            | .step => checkFrom what s deadline probe accept fuel p

/-- Wait from instant `start` until `accept` takes a state that `probe` fetches. The answer is
the accepted state or the error that ended the wait, with the progress at the end. The fuel
bounds the checks: one per millisecond up to the deadline and one per scripted state is enough
whenever the clock moves. -/
def run (what : String) (s : Schedule) (start : Nat) (probe : Nat → m (Probe m α))
    (accept : α → Bool) (fuel : Nat) : m (Except ClientError α × Progress) :=
  let alarm := match s.cancelAfter with
    | some c => Alarm.unarmed (start + c)
    | none => Alarm.silent
  checkFrom what s (start + s.timeout) probe accept fuel
    { now := start, alarm, reach := start + s.timeout }

end Run

/-- A scripted state: how long fetching it takes, what it is, and whether fetching it goes out on
the network. -/
structure Scripted (α : Type) where
  delay : Nat
  result : Except ClientError α
  yields : Bool := false

/-- The state a script shows at its `n`-th check: its `n`-th entry, its last one past the end,
and `fallback` for an empty script. -/
def Scripted.nth {α : Type} (script : List (Scripted α)) (fallback : Scripted α) (n : Nat) :
    Scripted α :=
  script[n]?.getD (script.getLast?.getD fallback)

/-- Wait from instant 0 on a script of states, the `n`-th check seeing `Scripted.nth`. -/
def replay {α : Type} (what : String) (s : Schedule) (script : List (Scripted α))
    (fallback : Scripted α) (accept : α → Bool) : Except ClientError α × Progress :=
  let probe : Nat → StateM Nat (Probe (StateM Nat) α) := fun _ n =>
    let st := Scripted.nth script fallback n
    ({ delay := st.delay, result := st.result, yields := st.yields, settle := pure () }, n + 1)
  (Id.run ((run what s 0 probe accept (s.timeout + script.length + 2)).run 0)).1

/-- Whether checks that ended with `r` ran out before the wait ended. A wait times out when its
deadline has come, so a timeout before the deadline marks checks cut off by their fuel while the
wait went on. -/
def ranOut {α : Type} (deadline : Nat) (r : Except ClientError α × Progress) : Bool :=
  match r.1 with
  | .error (.pollTimeout _ _) => decide (r.2.now < deadline)
  | _ => false

/-- Whether the clock can name `instant`, in milliseconds of a wait's clock, when it reads
`origin` milliseconds at that clock's instant 0: its whole seconds must fit a signed 64-bit
number, below 2^63. -/
def fits (origin instant : Nat) : Bool := (origin + instant) / 1000 < 9223372036854775808

/-- What the program stops with when a wait computes an instant past the clock's range. -/
def overflowMessage : String := "overflow when adding duration to instant"

end CloudApi.Wait
