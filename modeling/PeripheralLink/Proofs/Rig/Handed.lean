import PeripheralLink.Proofs.Rig.Stations
/-!
What is handed to a sink, read off the journal of a rig.  Only `Rig.deliver` hands a notification over: what links
report and what outsides enter is nothing of the kind.
-/

namespace PeripheralLink

variable {σ τ : Type}

/-- The notification that an entry hands to a sink.  A backend is handed one whether its client takes it or is
offline. -/
def Sink.handed? : Sink → Entry τ → Option Notification
  | .log, .report (.sink (.shown n)) => some n
  | .callback, .notified n => some n
  | .backend _ _, .client (.emit _ n) => some n
  | .backend _ _, .report (.sink (.shownOffline n)) => some n
  | _, _ => none

theorem Sink.handed?_link (sink : Sink) (n : LinkNotice τ) : sink.handed? (.report (.link n)) = none := by
  cases sink <;> rfl

theorem Sink.handed?_sinkFailed (sink : Sink) (reason : String) :
    sink.handed? (.report (.sink (.sinkFailed reason)) : Entry τ) = none := by
  cases sink <;> rfl

theorem Sink.handed?_outside (sink : Sink) (e : OutsideEntry τ) : sink.handed? e.entry = none := by
  cases e with
  | wire e => cases e <;> cases sink <;> rfl
  | transport call => cases sink <;> rfl
  | bench call => cases sink <;> rfl

namespace Rig

/-- The notifications that have been handed to a sink, in order. -/
def handed (r : Rig σ τ) (sink : Sink) : List Notification := r.journal.toList.filterMap sink.handed?

theorem handed_record (r : Rig σ τ) (sink : Sink) (e : Entry τ) :
    (r.record e).handed sink = r.handed sink ++ (sink.handed? e).toList := by
  rw [handed, record, Array.toList_push, List.filterMap_append, handed]
  cases h : sink.handed? e <;> simp [h]

theorem handed_report_link (r : Rig σ τ) (sink : Sink) (n : LinkNotice τ) :
    (r.report (.link n)).handed sink = r.handed sink := by
  rw [report, handed_record, sink.handed?_link]
  exact List.append_nil _

theorem handed_sinkFailed (r : Rig σ τ) (sink : Sink) (reason : String) :
    (r.report (.sink (.sinkFailed reason))).handed sink = r.handed sink := by
  rw [report, handed_record, sink.handed?_sinkFailed]
  exact List.append_nil _

/-- A sink that implements the operation is handed the notification once. -/
theorem handed_deliver (r : Rig σ τ) {sink : Sink} (hsink : sink ≠ .bare) (n : Notification) :
    (r.deliver sink n id).2.handed sink = r.handed sink ++ [n] := by
  cases sink with
  | log => exact r.handed_record .log (.report (.sink (.shown n)))
  | callback => exact r.handed_record .callback (.notified n)
  | bare => exact absurd rfl hsink
  | backend url client =>
      have hemitted := r.handed_record (.backend url client) (.client (.emit notificationEvent n))
      have hfailed (text : String) := (r.record (.client (.emit notificationEvent n))).handed_record
        (.backend url client) (.report (.sink (.emitFailed text)))
      unfold deliver
      dsimp only
      split
      · split
        · exact hemitted
        · exact ((hfailed _).trans (List.append_nil _)).trans hemitted
        · exact ((hfailed _).trans (List.append_nil _)).trans hemitted
        · exact hemitted
      · exact r.handed_record (.backend url client) (.report (.sink (.shownOffline n)))

variable [Carrier σ τ]

theorem handed_via {α : Type} (r : Rig σ τ) (call : σ → α × σ) (sink : Sink) :
    (r.via call).2.handed sink = r.handed sink := by
  have hnone : ∀ entries : List (OutsideEntry τ), (entries.map OutsideEntry.entry).filterMap sink.handed? = [] := by
    intro entries
    rw [List.filterMap_eq_nil_iff]
    intro e he
    obtain ⟨e, -, rfl⟩ := List.mem_map.mp he
    exact sink.handed?_outside e
  simp only [handed, via, Array.toList_appendList, List.filterMap_append, hnone, List.append_nil]

theorem handed_perform (r : Rig σ τ) (actions : List (LinkAction τ)) (sink : Sink) :
    (r.perform actions).handed sink = r.handed sink := by
  induction actions generalizing r with
  | nil => rfl
  | cons action rest ih =>
      cases action with
      | release id => exact (ih _).trans (r.handed_via _ sink)
      | report n => exact (ih _).trans (r.handed_report_link sink n)

theorem handed_change (r : Rig σ τ) (k : Nat) (operation : Link τ → Link τ × List (LinkAction τ)) (sink : Sink) :
    (r.change k operation).handed sink = r.handed sink := by
  unfold change
  split
  · rfl
  · exact handed_perform _ _ sink

end Rig

end PeripheralLink
