import PeripheralLink.Loop
/-!
What a signal does to the driving loop.  A signal clears the loop's flag, so one that comes once the flag has been set
leaves at most the update whose test has been passed already (`Driving.heeds_run`), and the program shuts the bridge
down and ends (`Driving.over_run`).
-/

namespace PeripheralLink

/-- The loop is on its way to the end: its test is not passed again, at most so many updates begin, and the bridge is
shut down last. -/
structure Winding (n : Nat) (c : List Milestone) : Prop where
  untested : .passed ∉ c
  updates : c.count .update ≤ n
  closed : c.getLast? = some .shutDown

/-- After each signal the loop is on its way to the end, with one update at most. -/
def Heeds (c : List Milestone) : Prop := ∀ before after, c = before ++ .signal :: after → Winding 1 after

/-- A course heeds its signals, and one that starts with the flag cleared is on its way to the end. -/
structure Obeys (n : Nat) (running : Bool) (c : List Milestone) : Prop where
  heeds : Heeds c
  winding : running = false → Winding n c

variable {n : Nat} {running : Bool} {c : List Milestone}

theorem Milestone.shutDown_not_mem_signals {α : Type} (handled : List α) : .shutDown ∉ Milestone.signals handled :=
  fun hmem => nomatch List.eq_of_mem_replicate hmem

theorem Winding.mono {n' : Nat} (h : Winding n c) (hle : n ≤ n') : Winding n' c :=
  { h with updates := Nat.le_trans h.updates hle }

/-- Anything but a passed test and an update may come before. -/
theorem Winding.cons {m : Milestone} (h : Winding n c) (hpassed : m ≠ .passed) (hupdate : m ≠ .update) :
    Winding n (m :: c) where
  untested hmem := by
    rcases List.mem_cons.mp hmem with hm | hmem
    · exact hpassed hm.symm
    · exact h.untested hmem
  updates := by
    rw [List.count_cons_of_ne hupdate]
    exact h.updates
  closed := by
    rw [List.getLast?_cons, h.closed]
    rfl

theorem Winding.update (h : Winding n c) : Winding (n + 1) (.update :: c) where
  untested hmem := h.untested ((List.mem_cons.mp hmem).resolve_left nofun)
  updates := by
    rw [List.count_cons_self]
    exact Nat.succ_le_succ h.updates
  closed := by
    rw [List.getLast?_cons, h.closed]
    rfl

theorem Heeds.nil : Heeds [] := fun before after h => by
  simp at h

theorem Heeds.cons {m : Milestone} (h : Heeds c) (hm : m = .signal → Winding 1 c) : Heeds (m :: c) := by
  intro before after hsplit
  cases before with
  | nil =>
      obtain ⟨rfl, rfl⟩ := List.cons.inj hsplit
      exact hm rfl
  | cons m' before => exact h before after (List.cons.inj hsplit).2

namespace Obeys

theorem pause (h : Obeys n running c) : Obeys n running (.pause :: c) where
  heeds := h.heeds.cons nofun
  winding hcleared := (h.winding hcleared).cons nofun nofun

theorem update (h : Obeys n running c) : Obeys (n + 1) running (.update :: c) where
  heeds := h.heeds.cons nofun
  winding hcleared := (h.winding hcleared).update

/-- Signals clear the flag. -/
theorem signals {α : Type} {handled : List α} (h : Obeys n (running && handled.isEmpty) c) (hn : n ≤ 1) :
    Obeys n running (Milestone.signals handled ++ c) := by
  cases handled with
  | nil =>
      rw [List.isEmpty_nil, Bool.and_true] at h
      exact h
  | cons first rest =>
      have hwinding := h.winding (Bool.and_false running)
      have hall : ∀ count,
          Winding n (List.replicate count .signal ++ c) ∧ Heeds (List.replicate count .signal ++ c) := by
        intro count
        induction count with
        | zero => exact ⟨hwinding, h.heeds⟩
        | succ count ih =>
            exact ⟨ih.1.cons nofun nofun, ih.2.cons fun _ => ih.1.mono hn⟩
      exact ⟨(hall _).2, fun _ => (hall _).1⟩

end Obeys

theorem Rig.station_shutDownBridge {σ τ : Type} [Carrier σ τ] (r : Rig σ τ) :
    r.shutDownBridge.bridge.station = none := by
  unfold Rig.shutDownBridge
  cases hstation : r.bridge.station with
  | none =>
      dsimp only
      split
      · exact hstation
      · exact hstation
  | some k =>
      dsimp only
      split <;> rfl

namespace Driving

variable {σ τ : Type} {d : Driving σ τ}

theorem running_handle (d : Driving σ τ) (handled : List Value) :
    (handled.foldl handle d).running = (d.running && handled.isEmpty) := by
  induction handled generalizing d with
  | nil => exact (Bool.and_true _).symm
  | cons signal rest ih =>
      have hcleared : (rest.foldl handle (d.handle signal)).running = (false && rest.isEmpty) := ih _
      rw [List.foldl_cons, hcleared, Bool.false_and, List.isEmpty_cons, Bool.and_false]

theorem running_work (d : Driving σ τ) (handled : List ArrivingSignal) (r : Rig σ τ) :
    (d.work handled r).running = (d.running && handled.isEmpty) := by
  cases handled with
  | nil => exact (Bool.and_true _).symm
  | cons first rest => exact (Bool.and_false _).symm

theorem running_changeClients (d : Driving σ τ) (change : Client → Client) :
    (d.changeClients change).running = d.running := rfl

theorem bridge_work (d : Driving σ τ) (handled : List ArrivingSignal) (r : Rig σ τ) :
    (d.work handled r).rig.bridge = r.bridge := by
  cases handled <;> rfl

theorem obeys_close (d : Driving σ τ) (ending : Ending) (closing : List ArrivingSignal) (r : Rig σ τ)
    (running : Bool) : Obeys 0 running (d.close ending closing r).course := by
  have hlast : Winding 0 [.shutDown] := ⟨by decide, by decide, rfl⟩
  exact Obeys.signals ⟨Heeds.nil.cons nofun, fun _ => hlast⟩ (Nat.zero_le 1)

/-- Signals before and during an update, and what follows them. -/
theorem heeds_begun (early : List Value) (change : Client → Client) (during : List ArrivingSignal) (r : Rig σ τ)
    (h : Obeys 0 (((early.foldl handle d).changeClients change).work during r).running c) :
    Heeds ((.passed :: Milestone.signals early ++ .update :: Milestone.signals during) ++ c) := by
  rw [running_work, running_changeClients, running_handle] at h
  have hupdate := (h.signals (Nat.zero_le 1)).update
  have hearly := hupdate.signals (Nat.le_refl 1)
  have hpassed : Heeds (.passed :: (Milestone.signals early ++ .update :: (Milestone.signals during ++ c))) :=
    hearly.heeds.cons nofun
  rw [List.cons_append, List.cons_append, List.append_assoc, List.cons_append]
  exact hpassed

variable [Carrier σ τ]

/-- The course of a pause is the signals in it, and they have cleared the flag. -/
theorem exists_meet (d : Driving σ τ) (happenings : List (Happening τ)) : ∃ handled : List Value,
    (d.meet happenings).1 = Milestone.signals handled ∧
      (d.meet happenings).2.2.running = (d.running && handled.isEmpty) := by
  induction happenings generalizing d with
  | nil => exact ⟨[], rfl, (Bool.and_true _).symm⟩
  | cons happening rest ih =>
      cases happening with
      | nothing => exact ih d
      | delay time => exact ih _
      | client change => exact ih _
      | fault reason => exact ⟨[], rfl, (Bool.and_true _).symm⟩
      | signal signal =>
          obtain ⟨handled, hcourse, hrunning⟩ := ih (d.handle signal)
          refine ⟨signal :: handled, congrArg (Milestone.signal :: ·) hcourse, ?_⟩
          exact hrunning.trans (Bool.and_false d.running).symm

theorem not_mem_meet (d : Driving σ τ) (happenings : List (Happening τ)) : .shutDown ∉ (d.meet happenings).1 := by
  obtain ⟨handled, hcourse, -⟩ := exists_meet d happenings
  rw [hcourse]
  exact Milestone.shutDown_not_mem_signals handled

/-- Once a run is closed, the bridge has no link any more. -/
theorem station_close (d : Driving σ τ) (ending : Ending) (closing : List ArrivingSignal) (r : Rig σ τ) :
    (d.close ending closing r.shutDownBridge).rig.bridge.station = none :=
  (congrArg Bridge.station (bridge_work _ _ _)).trans r.station_shutDownBridge

variable [Zero τ] [Sub τ] [Mul τ] [LE τ] [DecidableLE τ] [LT τ] [DecidableLT τ]

/-- A round of the loop, and what follows it. -/
theorem heeds_round (d : Driving σ τ) (pause : τ) (round : Round τ)
    (h : Obeys 0 (d.round pause round).2.2.running c) : Heeds ((d.round pause round).1 ++ c) := by
  unfold Driving.round at h ⊢
  dsimp only at h ⊢
  cases hupdate : ((round.early.foldl handle d).changeClients round.client).rig.updateBridge
      fun r => r.changeClients round.window with
  | mk result r =>
      rw [hupdate] at h
      cases result with
      | error fault => exact heeds_begun _ _ _ r h
      | ok _ =>
          dsimp only at h ⊢
          obtain ⟨handled, hcourse, hrunning⟩ :=
            exists_meet ((((round.early.foldl handle d).changeClients round.client).work round.update r).wait pause)
              round.pause
          rw [hcourse, List.append_assoc, List.cons_append]
          rw [hrunning] at h
          exact heeds_begun _ _ _ r (h.signals (Nat.zero_le 1)).pause

/-- The loop heeds its signals, and with the flag cleared it is on its way to the end. -/
theorem obeys_drive (d : Driving σ τ) (pause : τ) (closing : List ArrivingSignal) (rounds : List (Round τ)) :
    Obeys 0 d.running (d.drive pause closing rounds).course := by
  induction rounds generalizing d with
  | nil =>
      rw [drive]
      split
      · rename_i hrunning
        exact ⟨Heeds.nil, fun hcleared => absurd (hrunning.symm.trans hcleared) nofun⟩
      · exact obeys_close _ _ _ _ _
  | cons round rest ih =>
      rw [drive]
      split
      · rename_i hrunning
        have hheeds : ∀ c, Obeys 0 (d.round pause round).2.2.running c → Heeds ((d.round pause round).1 ++ c) :=
          fun c => heeds_round d pause round
        refine ⟨?_, fun hcleared => absurd (hrunning.symm.trans hcleared) nofun⟩
        generalize d.round pause round = result at hheeds ⊢
        obtain ⟨course, reason, d'⟩ := result
        cases reason with
        | none => exact hheeds _ (ih d')
        | some reason => exact hheeds _ (obeys_close _ _ _ _ _)
      · exact obeys_close _ _ _ _ _

/-- Every signal from setting the flag on is heeded. -/
theorem heeds_run (d : Driving σ τ) (pause : τ) (schedule : Schedule τ) : Heeds (d.run pause schedule).course := by
  have hdrive := obeys_drive
    (schedule.armed.foldl handle ({ d with running := true }.changeClients schedule.client)) pause schedule.closing
    schedule.rounds
  rw [running_handle, running_changeClients] at hdrive
  exact (hdrive.signals (Nat.zero_le 1)).heeds.cons nofun

theorem not_mem_round (d : Driving σ τ) (pause : τ) (round : Round τ) : .shutDown ∉ (d.round pause round).1 := by
  unfold Driving.round
  dsimp only
  split
  · simp [Milestone.shutDown_not_mem_signals]
  · simp [Milestone.shutDown_not_mem_signals, not_mem_meet]

/-- A run that has shut the bridge down is over, and the bridge has no link any more. -/
theorem over_drive {pause : τ} {closing : List ArrivingSignal} {rounds : List (Round τ)}
    (h : .shutDown ∈ (d.drive pause closing rounds).course) :
    (d.drive pause closing rounds).ending ≠ .driving ∧
      (d.drive pause closing rounds).rig.bridge.station = none := by
  induction rounds generalizing d with
  | nil =>
      rw [drive] at h ⊢
      split at h
      · cases h
      · rename_i hcleared
        rw [if_neg hcleared]
        exact ⟨nofun, station_close _ _ _ _⟩
  | cons round rest ih =>
      rw [drive] at h ⊢
      split at h
      · rename_i hrunning
        have hround := not_mem_round d pause round
        rw [if_pos hrunning]
        generalize d.round pause round = result at h hround ⊢
        obtain ⟨course, reason, d'⟩ := result
        cases reason with
        | none => exact ih ((List.mem_append.mp h).resolve_left hround)
        | some reason => exact ⟨nofun, station_close _ .broken _ _⟩
      · rename_i hcleared
        rw [if_neg hcleared]
        exact ⟨nofun, station_close _ _ _ _⟩

theorem over_run {pause : τ} {schedule : Schedule τ} (h : .shutDown ∈ (d.run pause schedule).course) :
    (d.run pause schedule).ending ≠ .driving ∧ (d.run pause schedule).rig.bridge.station = none := by
  refine over_drive ((List.mem_append.mp h).resolve_left fun hmem => ?_)
  rcases List.mem_cons.mp hmem with hm | hm
  · cases hm
  · exact Milestone.shutDown_not_mem_signals _ hm

end Driving

end PeripheralLink
