import Mathlib.Algebra.Ring.Int.Defs
import PeripheralLink.Proofs.Loop.Course
import PeripheralLink.Proofs.Rig.Likeness
import PeripheralLink.Scenario.Outside
/-!
Signals while the program starts.  The journal is only written, so that rigs that differ in nothing else are driven
alike; a signal that comes before the loop's flag is set therefore makes no difference but for its report.  Together
with `Driving.heeds_run` this is the whole of what becomes of a signal: `Rig.launch_signals`.
-/

namespace PeripheralLink

namespace Rig

/-- The rigs differ in their journals at most. -/
def Rewritten {σ τ : Type} (r r' : Rig σ τ) : Prop := ∃ journal, r' = { r with journal }

variable {σ τ : Type} {r r' r'' : Rig σ τ}

theorem Rewritten.symm (h : Rewritten r r') : Rewritten r' r := by
  obtain ⟨_, rfl⟩ := h
  exact ⟨r.journal, rfl⟩

theorem Rewritten.trans (h : Rewritten r r') (h' : Rewritten r' r'') : Rewritten r r'' := by
  obtain ⟨_, rfl⟩ := h
  obtain ⟨journal, rfl⟩ := h'
  exact ⟨journal, rfl⟩

theorem Rewritten.bridge (h : Rewritten r r') : r'.bridge = r.bridge := by
  obtain ⟨_, rfl⟩ := h
  rfl

theorem Rewritten.changeClients (h : Rewritten r r') (change : Client → Client) :
    Rewritten (r.changeClients change) (r'.changeClients change) := by
  obtain ⟨_, rfl⟩ := h
  exact ⟨_, rfl⟩

theorem Rewritten.closeSink (h : Rewritten r r') (sink : Sink) : Rewritten (r.closeSink sink) (r'.closeSink sink) := by
  obtain ⟨_, rfl⟩ := h
  cases sink with
  | backend url client =>
      unfold Rig.closeSink
      dsimp only
      split
      · exact ⟨_, rfl⟩
      · exact ⟨_, rfl⟩
  | _ => exact ⟨_, rfl⟩

variable [Carrier σ τ]

theorem likeness_rewritten : Likeness (Rewritten (σ := σ) (τ := τ)) where
  station := by rintro _ _ ⟨_, rfl⟩ k; rfl
  stations := by rintro _ _ ⟨_, rfl⟩; rfl
  clients := by rintro _ _ ⟨_, rfl⟩; rfl
  callbackFault := by rintro _ _ ⟨_, rfl⟩; rfl
  now := by rintro _ _ ⟨_, rfl⟩; rfl
  record _ := by rintro ⟨_, rfl⟩; exact ⟨_, rfl⟩
  setLink _ _ := by rintro ⟨_, rfl⟩; exact ⟨_, rfl⟩
  building _ _ := by rintro ⟨_, rfl⟩; exact ⟨rfl, _, rfl⟩
  approaching _ := by rintro ⟨_, rfl⟩; exact ⟨_, rfl⟩
  connecting _ := by rintro ⟨_, rfl⟩; exact ⟨rfl, _, rfl⟩
  releasing _ := by rintro ⟨_, rfl⟩; exact ⟨_, rfl⟩
  probing _ := by rintro ⟨_, rfl⟩; exact ⟨rfl, _, rfl⟩
  sending _ _ := by rintro ⟨_, rfl⟩; exact ⟨rfl, _, rfl⟩
  receiving _ := by rintro ⟨_, rfl⟩; exact ⟨rfl, _, rfl⟩
  exchanging _ _ := by rintro ⟨_, rfl⟩; exact ⟨rfl, _, rfl⟩

theorem Rewritten.report (h : Rewritten r r') (n : Report τ) : Rewritten (r.report n) (r'.report n) :=
  likeness_rewritten.report h n

theorem Rewritten.wait (h : Rewritten r r') (time : τ) : Rewritten (r.wait time) (r'.wait time) := by
  obtain ⟨_, rfl⟩ := h
  exact ⟨_, rfl⟩

theorem Rewritten.setBridgeEnabled (h : Rewritten r r') (on : Bool) :
    Rewritten (r.setBridgeEnabled on) (r'.setBridgeEnabled on) := by
  unfold Rig.setBridgeEnabled
  rw [h.bridge]
  cases r.bridge.station with
  | none => exact h.report _
  | some k =>
      unfold Rig.setEnabled
      rw [likeness_rewritten.now h]
      exact likeness_rewritten.change h _

/-- The rig with the bridge's link turned off and given up. -/
def withoutLink (r : Rig σ τ) : Rig σ τ :=
  match r.bridge.station with
  | some k => { r.shutDownLink k with bridge := { r.bridge with station := none } }
  | none => r

/-- The rig with a sink of the bridge's own making closed and given up. -/
def withoutSink (r : Rig σ τ) : Rig σ τ :=
  match r.bridge.ownsSink, r.bridge.sink with
  | true, some sink => { r.closeSink sink with bridge := { r.bridge with sink := none, ownsSink := false } }
  | _, _ => r

theorem Rewritten.withoutLink (h : Rewritten r r') : Rewritten r.withoutLink r'.withoutLink := by
  unfold Rig.withoutLink
  rw [h.bridge]
  cases r.bridge.station with
  | none => exact h
  | some k =>
      have hturned : Rewritten (r.shutDownLink k) (r'.shutDownLink k) := by
        unfold Rig.shutDownLink
        rw [likeness_rewritten.now h]
        exact likeness_rewritten.change h _
      obtain ⟨_, hlink⟩ := hturned
      exact ⟨_, by dsimp only; rw [hlink]⟩

omit [Carrier σ τ] in
theorem Rewritten.withoutSink (h : Rewritten r r') : Rewritten r.withoutSink r'.withoutSink := by
  unfold Rig.withoutSink
  rw [h.bridge]
  split
  · obtain ⟨_, hclosed⟩ := h.closeSink _
    exact ⟨_, by rw [hclosed]⟩
  · exact h

theorem Rewritten.shutDownBridge (h : Rewritten r r') : Rewritten r.shutDownBridge r'.shutDownBridge :=
  h.withoutLink.withoutSink.report _

theorem Rewritten.giveUp (h : Rewritten r r') (reason : String) : Rewritten (r.giveUp reason) (r'.giveUp reason) :=
  (h.report _).shutDownBridge

theorem Rewritten.updateBridge [Zero τ] [Sub τ] [Mul τ] [LE τ] [DecidableLE τ] [LT τ] [DecidableLT τ]
    (h : Rewritten r r') (change : Client → Client) :
    Agree Rewritten (r.updateBridge fun r => r.changeClients change)
      (r'.updateBridge fun r => r.changeClients change) := by
  unfold Rig.updateBridge
  rw [h.bridge]
  cases r.bridge.station with
  | none => exact ⟨rfl, h⟩
  | some k => exact likeness_rewritten.update (fun _ _ h => h.changeClients change) (fun _ _ h => h) h

end Rig

/-- Runs with the same course and the same end, but for the journal. -/
structure LoopRun.Rewritten {σ τ : Type} (run run' : LoopRun σ τ) : Prop where
  ending : run'.ending = run.ending
  course : run'.course = run.course
  rig : run.rig.Rewritten run'.rig

theorem LoopRun.Rewritten.after {σ τ : Type} {run run' : LoopRun σ τ} (h : run.Rewritten run')
    (course : List Milestone) : (run.after course).Rewritten (run'.after course) :=
  ⟨h.ending, congrArg (course ++ ·) h.course, h.rig⟩

namespace Driving

/-- The same flag, and rigs that differ in their journals at most. -/
structure Rewritten {σ τ : Type} (d d' : Driving σ τ) : Prop where
  running : d'.running = d.running
  rig : d.rig.Rewritten d'.rig

variable {σ τ : Type} {d d' : Driving σ τ}

theorem Rewritten.handle (h : Rewritten d d') (signal : Value) : Rewritten (d.handle signal) (d'.handle signal) := by
  obtain ⟨-, _, hrig⟩ := h
  exact ⟨rfl, _, by rw [Driving.handle, Driving.handle, hrig]; rfl⟩

theorem Rewritten.handleAll (h : Rewritten d d') (handled : List Value) :
    Rewritten (handled.foldl Driving.handle d) (handled.foldl Driving.handle d') := by
  induction handled generalizing d d' with
  | nil => exact h
  | cons signal rest ih => exact ih (h.handle signal)

theorem Rewritten.changeClients (h : Rewritten d d') (change : Client → Client) :
    Rewritten (d.changeClients change) (d'.changeClients change) :=
  ⟨h.running, h.rig.changeClients change⟩

theorem rewritten_work (d : Driving σ τ) (handled : List ArrivingSignal) (r : Rig σ τ) :
    r.Rewritten (d.work handled r).rig := by
  cases handled with
  | nil => exact ⟨r.journal, rfl⟩
  | cons first rest => exact ⟨_, rfl⟩

theorem Rewritten.work {r r' : Rig σ τ} (h : Rewritten d d') (handled : List ArrivingSignal) (hr : r.Rewritten r') :
    Rewritten (d.work handled r) (d'.work handled r') where
  running := by rw [running_work, running_work, h.running]
  rig := ((rewritten_work d handled r).symm.trans hr).trans (rewritten_work d' handled r')

theorem Rewritten.close (h : Rewritten d d') (ending : Ending) (closing : List ArrivingSignal) {r r' : Rig σ τ}
    (hr : r.Rewritten r') : (d.close ending closing r).Rewritten (d'.close ending closing r') :=
  ⟨rfl, rfl, (h.work closing hr).rig⟩

variable [Carrier σ τ]

theorem Rewritten.wait (h : Rewritten d d') (time : τ) : Rewritten (d.wait time) (d'.wait time) :=
  ⟨h.running, h.rig.wait time⟩

theorem Rewritten.meet (h : Rewritten d d') (happenings : List (Happening τ)) :
    (d'.meet happenings).1 = (d.meet happenings).1 ∧ (d'.meet happenings).2.1 = (d.meet happenings).2.1 ∧
      Rewritten (d.meet happenings).2.2 (d'.meet happenings).2.2 := by
  induction happenings generalizing d d' with
  | nil => exact ⟨rfl, rfl, h⟩
  | cons happening rest ih =>
      cases happening with
      | nothing => exact ih h
      | delay time => exact ih (h.wait time)
      | client change => exact ih (h.changeClients change)
      | fault reason => exact ⟨rfl, rfl, h⟩
      | signal signal =>
          obtain ⟨hcourse, hreason, hmet⟩ := ih (h.handle signal)
          exact ⟨congrArg (Milestone.signal :: ·) hcourse, hreason, hmet⟩

variable [Zero τ] [Sub τ] [Mul τ] [LE τ] [DecidableLE τ] [LT τ] [DecidableLT τ]

theorem Rewritten.round (h : Rewritten d d') (pause : τ) (round : Round τ) :
    (d'.round pause round).1 = (d.round pause round).1 ∧ (d'.round pause round).2.1 = (d.round pause round).2.1 ∧
      Rewritten (d.round pause round).2.2 (d'.round pause round).2.2 := by
  have hearly := (h.handleAll round.early).changeClients round.client
  obtain ⟨result, r, r', hr, hr', hupdated⟩ := (hearly.rig.updateBridge round.window).exists
  have hworked := hearly.work round.update hupdated
  unfold Driving.round
  dsimp only
  rw [hr, hr']
  cases result with
  | error fault => exact ⟨rfl, rfl, hworked⟩
  | ok _ =>
      obtain ⟨hcourse, hreason, hmet⟩ := (hworked.wait pause).meet round.pause
      exact ⟨congrArg (fun course => _ ++ Milestone.pause :: course) hcourse, hreason, hmet⟩

theorem Rewritten.drive (h : Rewritten d d') (pause : τ) (closing : List ArrivingSignal) (rounds : List (Round τ)) :
    (d.drive pause closing rounds).Rewritten (d'.drive pause closing rounds) := by
  induction rounds generalizing d d' with
  | nil =>
      rw [Driving.drive, Driving.drive, h.running]
      split
      · exact ⟨rfl, rfl, h.rig⟩
      · exact h.close _ _ h.rig.shutDownBridge
  | cons round rest ih =>
      rw [Driving.drive, Driving.drive, h.running]
      split
      · obtain ⟨hcourse, hreason, hround⟩ := h.round pause round
        generalize d.round pause round = result at *
        generalize d'.round pause round = result' at *
        obtain ⟨course, reason, d₁⟩ := result
        obtain ⟨course', reason', d₁'⟩ := result'
        obtain rfl : course' = course := hcourse
        obtain rfl : reason' = reason := hreason
        cases reason' with
        | none => exact (ih hround).after course'
        | some reason => exact (hround.close _ _ (hround.rig.giveUp reason)).after course'
      · exact h.close _ _ h.rig.shutDownBridge

/-- Setting the flag undoes what became of it before. -/
theorem rewritten_run (h : d.rig.Rewritten d'.rig) (pause : τ) (schedule : Schedule τ) :
    (d.run pause schedule).Rewritten (d'.run pause schedule) := by
  have harmed : Rewritten { d with running := true } { d' with running := true } := ⟨rfl, h⟩
  exact (((harmed.changeClients schedule.client).handleAll schedule.armed).drive _ _ _).after _

end Driving

namespace Rig

variable {σ τ : Type} [Carrier σ τ] [Zero τ] {r : Rig σ τ} {options : BridgeOptions τ} {host port : Option Value}
variable {schedule : Schedule τ} {d : Driving σ τ}

/-- Signals during the start make no difference but for the journal. -/
theorem rewritten_launch (h : r.launch options host port schedule = .ok d) (opening enabling : List ArrivingSignal) :
    ∃ d', r.launch options host port { schedule with opening, enabling } = .ok d' ∧ d.rig.Rewritten d'.rig := by
  unfold launch at h ⊢
  cases hopen : r.openBridge options host port with
  | mk result opened =>
      rw [hopen] at h
      cases result with
      | error fault => cases h
      | ok _ =>
          obtain rfl := Except.ok.inj h
          refine ⟨_, rfl, ?_⟩
          have hopened : ∀ signals, opened.Rewritten (Driving.work ⟨r, true⟩ signals opened).rig :=
            fun signals => Driving.rewritten_work _ signals opened
          have hturned := ((hopened schedule.opening).symm.trans (hopened opening)).setBridgeEnabled true
          exact ((Driving.rewritten_work _ _ _).symm.trans hturned).trans (Driving.rewritten_work _ _ _)

variable [Sub τ] [Mul τ] [LE τ] [DecidableLE τ] [LT τ] [DecidableLT τ]

/-- What becomes of a signal.  Once the loop's flag has been set, the test is not passed again after it, at most one
update begins, and the bridge is shut down and the program ends.  Before that it changes nothing in the run but the
journal. -/
theorem launch_signals (h : r.launch options host port schedule = .ok d) (pause : τ) :
    (∀ before after, (d.run pause schedule).course = before ++ .signal :: after → Winding 1 after ∧
      (d.run pause schedule).ending ≠ .driving ∧ (d.run pause schedule).rig.bridge.station = none) ∧
    ∀ opening enabling, ∃ d', r.launch options host port { schedule with opening, enabling } = .ok d' ∧
      (d.run pause schedule).Rewritten (d'.run pause { schedule with opening, enabling }) := by
  constructor
  · intro before after hcourse
    have hwinding := Driving.heeds_run d pause schedule before after hcourse
    have hshut : .shutDown ∈ (d.run pause schedule).course := by
      rw [hcourse]
      exact List.mem_append_right _ (List.mem_cons_of_mem _ (List.mem_of_getLast? hwinding.closed))
    exact ⟨hwinding, Driving.over_run hshut⟩
  · intro opening enabling
    obtain ⟨d', hlaunch, hrig⟩ := rewritten_launch h opening enabling
    exact ⟨d', hlaunch, Driving.rewritten_run hrig pause schedule⟩

def fresh : Rig (Scripted Int) Int := { outside := { clock := 0 } }

/-- Settings that leave the link off at first. -/
def plainOptions : BridgeOptions Int where
  enabled := false
  target := .standard
  notifyUrl := none
  link := ⟨⟨3, 1, defaultLineLimit⟩, {}, 5, 0, .start 1 2 30⟩

/-- A signal comes while the bridge is opened, and the loop passes its test all the same, again and again. -/
theorem launch_signals_lost :
    ∃ d, fresh.launch plainOptions none none { opening := [⟨terminationSignal, 0⟩], rounds := [{}, {}] } = .ok d ∧
      (d.run 1 { rounds := [{}, {}] }).ending = .driving ∧
      (d.run 1 { rounds := [{}, {}] }).course = [.armed, .passed, .update, .pause, .passed, .update, .pause] := by
  have hquiet : ((fresh.launch plainOptions none none { rounds := [{}, {}] }).toOption.map fun d =>
      ((d.run 1 { rounds := [{}, {}] }).ending, (d.run 1 { rounds := [{}, {}] }).course)) =
        some (.driving, [.armed, .passed, .update, .pause, .passed, .update, .pause]) := by decide +kernel
  cases hlaunch : fresh.launch plainOptions none none { rounds := [{}, {}] } with
  | error fault =>
      rw [hlaunch] at hquiet
      cases hquiet
  | ok d =>
      rw [hlaunch] at hquiet
      obtain ⟨hending, hcourse⟩ := Prod.mk.inj (Option.some.inj hquiet)
      obtain ⟨d', hlaunch', hrun⟩ := (launch_signals hlaunch 1).2 [⟨terminationSignal, 0⟩] []
      exact ⟨d', hlaunch', hrun.ending.trans hending, hrun.course.trans hcourse⟩

end Rig

end PeripheralLink
