import PeripheralLink.Proofs.Rig.Likeness
/-!
The calls that a rig makes on its outside.  A `Traced` outside is any outside together with the calls
made on it and what they came to; nothing reads them, so that a rig over a traced outside runs as it does
without the trace: `Rig.forget_update`.
-/

namespace PeripheralLink

inductive Call
  | build (target : Target) (result : Except Fault Nat)
  | connect (transport : Nat) (result : Except Fault Bool)
  | disconnect (transport : Nat)
  | probe (transport : Nat) (alive : Bool)
  | send (transport : Nat) (bytes : List UInt8) (done : Bool)
  | receive (transport : Nat) (line : Option (List UInt8))
  | exchange (transport : Nat) (bytes : List UInt8)
      (result : Except Fault (Option (List UInt8)))

/-- An outside with the calls made on it, in order. -/
structure Traced (σ : Type) where
  outside : σ
  calls : List Call := []

instance {σ τ : Type} [Carrier σ τ] : Carrier (Traced σ) τ where
  now o := Carrier.now o.outside
  wait o time := { o with outside := Carrier.wait o.outside time }
  build o limits target :=
    let (result, outside) := Carrier.build o.outside limits target
    (result, ⟨outside, o.calls ++ [.build target result]⟩)
  approach o id := { o with outside := Carrier.approach o.outside id }
  connect o id :=
    let (result, outside) := Carrier.connect o.outside id
    (result, ⟨outside, o.calls ++ [.connect id result]⟩)
  disconnect o id := ⟨Carrier.disconnect o.outside id, o.calls ++ [.disconnect id]⟩
  probe o id :=
    let (alive, outside) := Carrier.probe o.outside id
    (alive, ⟨outside, o.calls ++ [.probe id alive]⟩)
  send o id bytes :=
    let (done, outside) := Carrier.send o.outside id bytes
    (done, ⟨outside, o.calls ++ [.send id bytes done]⟩)
  receive o id :=
    let (line, outside) := Carrier.receive o.outside id
    (line, ⟨outside, o.calls ++ [.receive id line]⟩)
  exchange o id bytes :=
    let (result, outside) := Carrier.exchange o.outside id bytes
    (result, ⟨outside, o.calls ++ [.exchange id bytes result]⟩)
  drain o :=
    let (entries, outside) := Carrier.drain o.outside
    (entries, { o with outside })

def LinkAction.calls {τ : Type} : LinkAction τ → List Call
  | release id => [.disconnect id]
  | report _ => []

@[simp] theorem calls_reports {τ : Type} (reports : List (LinkNotice τ)) :
    (reports.map LinkAction.report).flatMap LinkAction.calls = [] := by
  simp [LinkAction.calls]

namespace Rig

section Calls

variable {σ τ : Type}

def calls (r : Rig (Traced σ) τ) : List Call := r.outside.calls

variable {r : Rig (Traced σ) τ} {k : Nat} {l : Link τ}

@[simp] theorem calls_setLink (r : Rig (Traced σ) τ) (k : Nat) (l : Link τ) :
    (r.setLink k l).calls = r.calls := rfl

@[simp] theorem calls_report (r : Rig (Traced σ) τ) (n : Report τ) :
    (r.report n).calls = r.calls := rfl

variable [Carrier σ τ]

@[simp] theorem calls_build (r : Rig (Traced σ) τ) (limits : TransportLimits τ) (target : Target) :
    (r.via fun o => Carrier.build o limits target).2.calls =
      r.calls ++ [.build target (r.via fun o => Carrier.build o limits target).1] := rfl

@[simp] theorem calls_approach (r : Rig (Traced σ) τ) (id : Nat) :
    (r.via fun o => ((), Carrier.approach o id)).2.calls = r.calls := rfl

@[simp] theorem calls_connect (r : Rig (Traced σ) τ) (id : Nat) :
    (r.via fun o => Carrier.connect o id).2.calls =
      r.calls ++ [.connect id (r.via fun o => Carrier.connect o id).1] := rfl

@[simp] theorem calls_disconnect (r : Rig (Traced σ) τ) (id : Nat) :
    (r.via fun o => ((), Carrier.disconnect o id)).2.calls = r.calls ++ [.disconnect id] := rfl

@[simp] theorem calls_probe (r : Rig (Traced σ) τ) (id : Nat) :
    (r.via fun o => Carrier.probe o id).2.calls =
      r.calls ++ [.probe id (r.via fun o => Carrier.probe o id).1] := rfl

/-- Performing actions makes their calls. -/
@[simp] theorem calls_perform (r : Rig (Traced σ) τ) (actions : List (LinkAction τ)) :
    (r.perform actions).calls = r.calls ++ actions.flatMap LinkAction.calls := by
  induction actions generalizing r with
  | nil => simp
  | cons action rest ih =>
      have hfirst : (r.perform (action :: rest)).calls =
          (r.perform [action]).calls ++ rest.flatMap LinkAction.calls := ih _
      rw [hfirst, List.flatMap_cons, ← List.append_assoc]
      cases action <;> simp [perform, LinkAction.calls]

theorem calls_change (h : r.link? k = some l) (operation : Link τ → Link τ × List (LinkAction τ)) :
    (r.change k operation).calls = r.calls ++ (operation l).2.flatMap LinkAction.calls := by
  rw [change_eq h, calls_perform, calls_setLink]

theorem calls_conclude [Mul τ] [LT τ] [DecidableLT τ] (h : r.link? k = some l) (a : Attempt) (id : Nat)
    (up : Bool) :
    (r.conclude k a id up).2.calls =
      r.calls ++ (l.settle r.now a id up).2.1.flatMap LinkAction.calls := by
  rw [conclude_eq h, calls_perform, calls_setLink]

end Calls

section Forget

variable {σ τ : Type}

/-- The rig without the trace of its calls. -/
def forget (r : Rig (Traced σ) τ) : Rig σ τ where
  outside := r.outside.outside
  stations := r.stations
  clients := r.clients
  freshClient := r.freshClient
  callbackFault := r.callbackFault
  bridge := r.bridge
  journal := r.journal

/-- The rig with a trace of the calls that are made from here on. -/
def traced (r : Rig σ τ) : Rig (Traced σ) τ where
  outside := { outside := r.outside }
  stations := r.stations
  clients := r.clients
  freshClient := r.freshClient
  callbackFault := r.callbackFault
  bridge := r.bridge
  journal := r.journal

theorem calls_traced (r : Rig σ τ) : r.traced.calls = [] := rfl

/-- What a call on a rig comes to, without the trace. -/
def forgetting {α : Type} (result : α × Rig (Traced σ) τ) : α × Rig σ τ :=
  (result.1, result.2.forget)

variable {r : Rig (Traced σ) τ} {k : Nat} {reaction : Rig (Traced σ) τ → Rig (Traced σ) τ}
  {reaction' : Rig σ τ → Rig σ τ}

theorem likeness_forget [Carrier σ τ] :
    Likeness (fun (r : Rig (Traced σ) τ) (r' : Rig σ τ) => r.forget = r') where
  station := by rintro r _ rfl k; rfl
  stations := by rintro r _ rfl; rfl
  clients := by rintro r _ rfl; rfl
  callbackFault := by rintro r _ rfl; rfl
  now := by rintro r _ rfl; rfl
  record _ := by rintro rfl; rfl
  setLink _ _ := by rintro rfl; rfl
  building _ _ := by rintro rfl; exact ⟨rfl, rfl⟩
  approaching _ := by rintro rfl; rfl
  connecting _ := by rintro rfl; exact ⟨rfl, rfl⟩
  releasing _ := by rintro rfl; rfl
  probing _ := by rintro rfl; exact ⟨rfl, rfl⟩
  sending _ _ := by rintro rfl; exact ⟨rfl, rfl⟩
  receiving _ := by rintro rfl; exact ⟨rfl, rfl⟩
  exchanging _ _ := by rintro rfl; exact ⟨rfl, rfl⟩

/-- The end of an attempt makes of a rig with a trace what it makes of the rig. -/
theorem forget_conclude_traced [Carrier σ τ] [Mul τ] [LT τ] [DecidableLT τ] (r : Rig σ τ) (k : Nat) (a : Attempt)
    (id : Nat) (up : Bool) : forgetting (r.traced.conclude k a id up) = r.conclude k a id up := by
  obtain ⟨hresult, hrig⟩ := likeness_forget.conclude (r := r.traced) (k := k) rfl a id up
  exact Prod.ext hresult hrig

variable [Carrier σ τ] [Zero τ] [Sub τ] [Mul τ] [LE τ] [DecidableLE τ] [LT τ] [DecidableLT τ]

/-- An update makes of a rig what it makes of the rig without the trace, as long as the calls inside it
do. -/
theorem forget_update {window : Rig (Traced σ) τ → Rig (Traced σ) τ}
    {window' : Rig σ τ → Rig σ τ}
    (hwindow : ∀ r, (window r).forget = window' r.forget)
    (hreaction : ∀ r, (reaction r).forget = reaction' r.forget) :
    forgetting (r.update k window reaction) = r.forget.update k window' reaction' := by
  obtain ⟨hresult, hrig⟩ := likeness_forget.update (r := r) (k := k)
    (by rintro r _ rfl; exact hwindow r) (by rintro r _ rfl; exact hreaction r) rfl
  exact Prod.ext hresult hrig

end Forget

end Rig

end PeripheralLink
