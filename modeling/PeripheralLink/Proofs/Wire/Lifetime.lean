import Mathlib.Algebra.Ring.Int.Defs
import PeripheralLink.Proofs.Wire.Outcomes
/-!
The life of a transport, over any number of connections.  A lifetime is any run of calls on one transport,
from the making of it on, with anything that may happen on the network between them; it keeps the entries
that the calls have made in the journal.

Every call leaves the transport `Tidy`, and takes its sockets one after the other: `InTurn` allows a socket
to be created only while none is open, and only the open one to be closed.  The main statement is
`Lifetime.openSockets_eq_held_buffer_within`: at every moment at most one socket is open, and after every
call it is the one that the transport holds.
-/

namespace PeripheralLink

section

variable {τ : Type}

/-- The sockets that are open after an entry, if these were open before it. -/
def WireEntry.opens (before : List Nat) : WireEntry τ → List Nat
  | call (.create id) => before ++ [id]
  | call (.close id) => before.erase id
  | _ => before

/-- The sockets that have been created and not been closed since. -/
def openSockets (entries : List (WireEntry τ)) : List Nat := entries.foldl WireEntry.opens []

/-- The entry neither creates a socket nor closes one. -/
def WireEntry.isUse : WireEntry τ → Bool
  | call (.create _) => false
  | call (.close _) => false
  | _ => true

/-- Sockets are taken one after the other: none is created while one is open, and none but the open one
is closed. -/
inductive InTurn : Option Nat → List (WireEntry τ) → Option Nat → Prop
  | nil (held : Option Nat) : InTurn held [] held
  | use {held held' : Option Nat} {e : WireEntry τ} {entries : List (WireEntry τ)} (he : e.isUse = true)
      (h : InTurn held entries held') : InTurn held (e :: entries) held'
  | create {held' : Option Nat} {id : Nat} {entries : List (WireEntry τ)}
      (h : InTurn (some id) entries held') : InTurn none (.call (.create id) :: entries) held'
  | close {held' : Option Nat} {id : Nat} {entries : List (WireEntry τ)} (h : InTurn none entries held') :
      InTurn (some id) (.call (.close id) :: entries) held'

theorem WireEntry.opens_of_isUse {e : WireEntry τ} (he : e.isUse = true) (before : List Nat) :
    e.opens before = before := by
  cases e with
  | notice notice => rfl
  | call call =>
      cases call with
      | create id => cases he
      | close id => cases he
      | _ => rfl

namespace InTurn

variable {held held' held'' : Option Nat} {entries entries' : List (WireEntry τ)}

theorem append (h : InTurn held entries held') (h' : InTurn held' entries' held'') :
    InTurn held (entries ++ entries') held'' := by
  induction h with
  | nil => exact h'
  | use he _ ih => exact .use he (ih h')
  | create _ ih => exact .create (ih h')
  | close _ ih => exact .close (ih h')

theorem uses (hentries : ∀ e ∈ entries, e.isUse = true) (held : Option Nat) :
    InTurn held entries held := by
  induction entries with
  | nil => exact .nil held
  | cons e entries ih =>
      obtain ⟨he, hrest⟩ := List.forall_mem_cons.mp hentries
      exact .use he (ih hrest)

/-- Between any two entries, some socket is held or none is. -/
theorem split (h : InTurn held (entries ++ entries') held'') :
    ∃ held', InTurn held entries held' ∧ InTurn held' entries' held'' := by
  induction entries generalizing held with
  | nil => exact ⟨held, .nil held, h⟩
  | cons e entries ih =>
      cases h with
      | use he h =>
          obtain ⟨held', hfirst, hlater⟩ := ih h
          exact ⟨held', .use he hfirst, hlater⟩
      | create h =>
          obtain ⟨held', hfirst, hlater⟩ := ih h
          exact ⟨held', .create hfirst, hlater⟩
      | close h =>
          obtain ⟨held', hfirst, hlater⟩ := ih h
          exact ⟨held', .close hfirst, hlater⟩

/-- The socket that is held is the open one. -/
theorem foldl_opens (h : InTurn held entries held') :
    entries.foldl WireEntry.opens held.toList = held'.toList := by
  induction h with
  | nil => rfl
  | use he _ ih => rwa [List.foldl_cons, WireEntry.opens_of_isUse he]
  | create _ ih => exact ih
  | close _ ih => simpa [WireEntry.opens] using ih

theorem openSockets_eq (h : InTurn none entries held) : openSockets entries = held.toList :=
  h.foldl_opens

/-- At every moment at most one socket is open. -/
theorem length_openSockets_le (h : InTurn none entries held) {past : List (WireEntry τ)}
    (hpast : past <+: entries) : (openSockets past).length ≤ 1 := by
  obtain ⟨later, rfl⟩ := hpast
  obtain ⟨held', hfirst, -⟩ := h.split
  rw [hfirst.openSockets_eq]
  cases held' <;> simp

/-- A socket is held until it is closed. -/
theorem held_or_closed {id : Nat} (h : InTurn (some id) entries held) :
    held = some id ∨ .call (.close id) ∈ entries := by
  generalize hsome : some id = start at h
  induction h with
  | nil => exact .inl rfl
  | use _ _ ih => exact (ih hsome).imp_right (List.mem_cons_of_mem _)
  | create => cases hsome
  | close =>
      cases hsome
      exact .inr List.mem_cons_self

theorem held_or_closed_of_create {before after : List (WireEntry τ)} {id : Nat}
    (h : InTurn none (before ++ .call (.create id) :: after) held) :
    held = some id ∨ .call (.close id) ∈ after := by
  obtain ⟨held', -, hlater⟩ := h.split
  cases hlater with
  | use he => cases he
  | create h => exact h.held_or_closed

end InTurn

namespace Network

/-- The journal has grown by entries that take sockets one after the other. -/
def InTurn (n n' : Network τ) (held held' : Option Nat) : Prop :=
  ∃ entries, n.Adds n' entries ∧ PeripheralLink.InTurn held entries held'

variable {n n' n'' : Network τ} {held held' held'' : Option Nat}

theorem InTurn.of_journal (h : n'.journal = n.journal) (held : Option Nat) : n.InTurn n' held held :=
  ⟨[], .nil h, .nil held⟩

theorem InTurn.trans (h : n.InTurn n' held held') (h' : n'.InTurn n'' held' held'') :
    n.InTurn n'' held held'' := by
  obtain ⟨entries, hadds, hturn⟩ := h
  obtain ⟨entries', hadds', hturn'⟩ := h'
  exact ⟨entries ++ entries', hadds.trans hadds', hturn.append hturn'⟩

theorem inTurn_record (n : Network τ) (call : SocketCall τ) (hcall : (WireEntry.call call).isUse = true)
    (held : Option Nat) : n.InTurn (n.record call) held held :=
  ⟨_, adds_record n call, .use hcall (.nil held)⟩

theorem inTurn_report (n : Network τ) (notice : TransportNotice) (held : Option Nat) :
    n.InTurn (n.report notice) held held :=
  ⟨_, adds_report n notice, .use rfl (.nil held)⟩

theorem inTurn_close (n : Network τ) (id : Nat) : n.InTurn (n.close id).2 (some id) none := by
  rw [snd_close]
  exact ⟨_, adds_record n _, .close (.nil none)⟩

/-- A socket that is created is held from then on; a failure creates none. -/
theorem inTurn_create {result : Except Fault Nat} (h : n.create = (result, n')) :
    n.InTurn n' none (match result with | .ok id => some id | .error _ => none) := by
  unfold create at h
  dsimp only at h
  split at h
  · cases h
    exact .of_journal rfl none
  · cases h
    exact ⟨_, adds_record _ _, .create (.nil _)⟩

/-- Getting a socket ready creates none and closes none. -/
theorem Prepares.inTurn (h : n.Prepares n') (held : Option Nat) : n.InTurn n' held held := by
  induction h with
  | refl => exact .of_journal rfl held
  | record _ hcall ih =>
      refine ih.trans (inTurn_record _ _ ?_ held)
      rename_i call _
      cases call with
      | create id => cases hcall
      | close id => cases hcall
      | _ => rfl
  | report _ ih => exact ih.trans (inTurn_report _ _ held)

theorem inTurn_discard (n : Network τ) (id : Nat) : n.InTurn (n.discard id).2 (some id) none := by
  rw [snd_discard]
  exact ⟨_, adds_record n _, .close (.nil none)⟩

end Network

end

/-- The buffer holds no line end, and no more bytes than the bound allows. -/
structure LineBuffer.Within (limit : Int) (buffer : LineBuffer) : Prop where
  size_le : (buffer.pending.size : Int) ≤ max (limit - 1) 1
  noLineEnd : ¬ lineEnd <:+: buffer.pending.toList

namespace LineBuffer

variable {limit : Int} {buffer : LineBuffer}

theorem within_empty (limit : Int) : Within limit {} where
  size_le := Int.le_trans (show (0 : Int) ≤ 1 by decide) (Int.le_max_right _ _)
  noLineEnd := by simp [lineEnd]

theorem within_singleton (limit : Int) (b : UInt8) (discarding : Bool) :
    Within limit ⟨#[b], discarding⟩ where
  size_le := Int.le_max_right _ _
  noLineEnd hend := by
    have hlength := hend.length_le
    simp [lineEnd] at hlength

/-- One byte keeps the buffer within its bound. -/
theorem Within.push (h : buffer.Within limit) (b : UInt8) : (buffer.push limit b).1.Within limit := by
  unfold LineBuffer.push
  dsimp only
  split
  · exact within_empty limit
  · rename_i hopen
    split
    · exact within_singleton limit b true
    · rename_i hroom
      refine ⟨?_, ?_⟩
      · simp only [Array.size_push] at hroom ⊢
        omega
      · intro hend
        rw [Array.toList_push, List.infix_concat_iff] at hend
        rcases hend with ⟨front, hfront⟩ | hold
        · -- a line end that ends with the new byte has its first half before it
          have hsplit : (front ++ [13]) ++ [10] = buffer.pending.toList ++ [b] := by
            rw [← hfront]
            simp [lineEnd]
          obtain ⟨hinit, hlast⟩ := List.append_inj' hsplit rfl
          refine hopen ⟨(List.cons.inj hlast).1.symm, ?_⟩
          rw [← Array.getLast?_toList, ← hinit, List.getLast?_concat]
        · exact h.noLineEnd hold

/-- Any bytes keep the buffer within its bound. -/
theorem Within.absorb (h : buffer.Within limit) (bytes : List UInt8) :
    (buffer.absorb limit bytes).1.Within limit := by
  induction bytes generalizing buffer with
  | nil => exact h
  | cons b bytes ih => exact ih (h.push b)

end LineBuffer

namespace Tcp

section

variable {τ : Type}

/-- A transport between calls: it is connected exactly while it holds a socket, without one it holds no
bytes either, and its buffer is within the bound. -/
structure Tidy (t : Tcp τ) : Prop where
  connected_iff : t.connected = true ↔ t.socket.isSome = true
  clear : t.connected = false → t.buffer = {}
  within : t.buffer.Within t.lineLimit.value

/-- A call leaves a tidy transport, and has taken sockets one after the other. -/
structure Leaves (t : Tcp τ) (n : Network τ) (t' : Tcp τ) (n' : Network τ) : Prop where
  tidy : t'.Tidy
  inTurn : n.InTurn n' t.socket t'.socket

variable {t t' : Tcp τ} {n n' : Network τ}

theorem Leaves.behind {t₁ : Tcp τ} {n₁ : Network τ} (h : t₁.Leaves n₁ t' n')
    (hturn : n.InTurn n₁ t.socket t₁.socket) : t.Leaves n t' n' :=
  ⟨h.tidy, hturn.trans h.inTurn⟩

theorem tidy_opened (t : Tcp τ) (id : Nat) :
    Tidy { t with socket := some id, connected := true, buffer := {} } where
  connected_iff := by simp
  clear := nofun
  within := LineBuffer.within_empty _

theorem tidy_idle (t : Tcp τ) : t.idle.Tidy where
  connected_iff := by simp [idle]
  clear _ := rfl
  within := LineBuffer.within_empty _

theorem Tidy.stay (h : t.Tidy) (hjournal : n'.journal = n.journal) : t.Leaves n t n' :=
  ⟨h, .of_journal hjournal t.socket⟩

theorem inTurn_release (t : Tcp τ) (n : Network τ) : n.InTurn (t.release n).2 t.socket none := by
  unfold release
  cases t.socket with
  | none => exact .of_journal rfl none
  | some id =>
      have hclosed := n.inTurn_close id
      dsimp only
      cases hclose : n.close id with
      | mk result n₁ =>
          rw [hclose] at hclosed
          cases result with
          | ok _ => exact hclosed
          | error fault => exact hclosed.trans (n₁.inTurn_report _ none)

theorem leaves_release (t : Tcp τ) (n : Network τ) : t.Leaves n (t.release n).1 (t.release n).2 := by
  have hidle := (t.release_spec n).idle
  refine ⟨?_, ?_⟩
  · rw [hidle]
    exact tidy_idle t
  · rw [hidle]
    exact inTurn_release t n

/-- A call that ends by closing the connection. -/
theorem leaves_of_drop {α : Type} {answer answer' : α} {reason : TransportNotice}
    (h : (answer, t.drop n reason) = (answer', t', n')) : t.Leaves n t' n' := by
  obtain ⟨-, hdrop⟩ := Prod.mk.inj h
  have hreleased := t.leaves_release (n.report reason)
  unfold drop at hdrop
  rw [hdrop] at hreleased
  exact ⟨hreleased.tidy, (n.inTurn_report reason t.socket).trans hreleased.inTurn⟩

theorem leaves_disconnect (t : Tcp τ) (n : Network τ) :
    t.Leaves n (t.disconnect n).1 (t.disconnect n).2 := by
  have hreleased := t.leaves_release n
  refine ⟨hreleased.tidy, ?_⟩
  unfold disconnect
  dsimp only
  split
  · exact hreleased.inTurn.trans (Network.inTurn_report _ _ _)
  · exact hreleased.inTurn

/-- A socket that has been set up is held. -/
theorem Dials.inTurn {id : Nat} {outcome : Except Fault Unit} (h : t.Dials n id outcome n') :
    n.InTurn n' t.socket (some id) := by
  obtain ⟨hcreate, hset⟩ := h
  rename_i n₁
  have hprepares := t.idle.prepares_setUp n₁ id
  rw [hset] at hprepares
  exact ((t.inTurn_release n).trans (Network.inTurn_create hcreate)).trans (hprepares.inTurn (some id))

/-- A socket that is withdrawn is held no longer. -/
theorem Dials.inTurn_withdrawn {id : Nat} {outcome answer : Except Fault Unit} {text : String} {n'' : Network τ}
    (h : t.Dials n id outcome n')
    (hdiscard : (n'.report (.connectFailed t.target text)).discard id = (answer, n'')) :
    n.InTurn n'' t.socket none := by
  have hclosed := Network.inTurn_discard (n'.report (.connectFailed t.target text)) id
  rw [hdiscard] at hclosed
  exact (h.inTurn.trans (Network.inTurn_report _ _ _)).trans hclosed

/-- Opening the connection: a socket that cannot be set up is closed before the call returns. -/
theorem Tidy.connect (h : t.Tidy) {result : Except Fault Bool} (hcall : t.connect n = (result, t', n'))
    (hsystem : (n.coming.headD {}).FailsAsSystem) : t.Leaves n t' n' := by
  cases hclosed : t.connected with
  | true =>
      rw [Tcp.connect, if_pos hclosed] at hcall
      cases hcall
      exact h.stay rfl
  | false =>
      cases connects hclosed hcall with
      | refused hcreate =>
          have hcreated := (t.inTurn_release n).trans (Network.inTurn_create hcreate)
          exact ⟨t.tidy_idle, hcreated.trans (Network.inTurn_report _ _ none)⟩
      | uncreated hcreate _ =>
          exact ⟨t.tidy_idle, (t.inTurn_release n).trans (Network.inTurn_create hcreate)⟩
      | @opened id _ hdials =>
          exact ⟨t.tidy_opened id, hdials.inTurn.trans (Network.inTurn_report _ _ (some id))⟩
      | withdrawn hdials hdiscard => exact ⟨t.tidy_idle, hdials.inTurn_withdrawn hdiscard⟩
      | broken hdials hbroken =>
          have hfault := Fault.raised_error_iff.mp hdials.outcome.2.2.1.symm
          exact absurd (hsystem _ hfault) (by simp [hbroken])

/-- What holds of a transport and of the journal of its calls. -/
structure Kept (t : Tcp τ) (entries : List (WireEntry τ)) : Prop where
  tidy : t.Tidy
  inTurn : InTurn none entries t.socket

theorem Kept.call {entries : List (WireEntry τ)} (h : t.Kept entries) (hleaves : t.Leaves n t' n') :
    t'.Kept (entries ++ n.since n') := by
  obtain ⟨new, hadds, hturn⟩ := hleaves.inTurn
  rw [hadds.since]
  exact ⟨hleaves.tidy, h.inTurn.append hturn⟩

/-- A probe closes the connection or leaves the transport as it is. -/
theorem Tidy.probe (h : t.Tidy) {alive : Bool} (hcall : t.probe n = (alive, t', n')) :
    t.Leaves n t' n' := by
  unfold Tcp.probe at hcall
  split at hcall
  · cases hcall
    exact h.stay rfl
  · rename_i id _
    cases hpeek : (n.socket id).peek with
    | mk received s =>
        have hlooked : n.InTurn (n.setSocket id s) t.socket t.socket := .of_journal rfl t.socket
        rw [hpeek] at hcall
        cases received with
        | failed text => exact (leaves_of_drop hcall).behind hlooked
        | ended => exact (leaves_of_drop hcall).behind hlooked
        | _ =>
            cases hcall
            exact ⟨h, hlooked⟩

end

variable {τ : Type} [Zero τ] [Add τ] [Sub τ] [LE τ] [DecidableLE τ] {t t' : Tcp τ} {n n' : Network τ}

/-- Sending closes the connection or leaves the transport as it is. -/
theorem Tidy.send (h : t.Tidy) {bytes : List UInt8} {done : Bool}
    (hcall : t.send n bytes = (done, t', n')) : t.Leaves n t' n' := by
  cases hopen : t.open? with
  | none =>
      simp only [Tcp.send, hopen] at hcall
      cases hcall
      exact h.stay rfl
  | some id =>
      simp only [Tcp.send, hopen] at hcall
      cases hwrite : (n.socket id).writeAll (n.clock + t.ioTimeout) (n.socket id).writeRounds n.clock 0
          bytes [] with
      | mk result rest =>
          obtain ⟨s, clock, taken⟩ := rest
          rw [hwrite] at hcall
          dsimp only at hcall
          obtain ⟨hadds, -⟩ := Network.foldr_record { n.setSocket id s with clock } id taken
          generalize taken.foldr _ _ = n₁ at hcall hadds
          have hsent : n.InTurn n₁ t.socket t.socket := by
            refine ⟨_, hadds, .uses ?_ t.socket⟩
            intro e he
            obtain ⟨chunk, -, rfl⟩ := List.mem_map.mp he
            rfl
          cases result with
          | done =>
              cases hcall
              exact ⟨h, hsent⟩
          | _ => exact (leaves_of_drop hcall).behind hsent

/-- Receiving closes the connection or leaves what has arrived of a line, within the bound. -/
theorem Tidy.receive (h : t.Tidy) {line : Option (List UInt8)} (hcall : t.receive n = (line, t', n')) :
    t.Leaves n t' n' := by
  cases hopen : t.open? with
  | none =>
      simp only [Tcp.receive, hopen] at hcall
      cases hcall
      exact h.stay rfl
  | some id =>
      simp only [Tcp.receive, hopen] at hcall
      cases hread : (n.socket id).readLine t.lineLimit.value (n.clock + t.ioTimeout)
          (n.socket id).readRounds n.clock t.buffer with
      | mk result rest =>
          obtain ⟨s, clock, buffer⟩ := rest
          obtain ⟨taken, -, habsorb⟩ := (Socket.readLine_runs _ _ _ _ _ _ hread).reads
          have hconnected : t.connected = true := by
            cases hconnected : t.connected with
            | true => rfl
            | false => simp [open?, hconnected] at hopen
          have htidy : Tidy { t with buffer } := by
            refine ⟨h.connected_iff, fun hclosed => absurd hclosed (by simp [hconnected]), ?_⟩
            have hwithin := h.within.absorb taken
            rwa [habsorb] at hwithin
          have htaken : n.InTurn { n.setSocket id s with clock } t.socket t.socket :=
            .of_journal rfl t.socket
          rw [hread] at hcall
          cases result with
          | line bytes =>
              cases hcall
              exact ⟨htidy, htaken⟩
          | expired =>
              cases hcall
              exact ⟨htidy, htaken⟩
          | overflow =>
              cases hcall
              exact ⟨htidy, htaken.trans (Network.inTurn_report _ _ _)⟩
          | _ => exact (leaves_of_drop hcall).behind htaken

theorem Tidy.exchange (h : t.Tidy) {bytes : List UInt8} {line : Option (List UInt8)}
    (hcall : t.exchange n bytes = (line, t', n')) : t.Leaves n t' n' := by
  unfold Tcp.exchange at hcall
  cases hsend : t.send n bytes with
  | mk done rest =>
      obtain ⟨t₁, n₁⟩ := rest
      have hsent := h.send hsend
      rw [hsend] at hcall
      cases done with
      | true => exact (hsent.tidy.receive hcall).behind hsent.inTurn
      | false =>
          cases hcall
          exact hsent

end Tcp

variable {τ : Type} [Zero τ] [Add τ] [Sub τ] [LE τ] [DecidableLE τ]

/-- Any run of calls on a transport, with the entries that they have made in the journal.  Where a socket that
is opened fails to be set up, the system has refused a call; creating it and closing it may fail in any way. -/
inductive Lifetime : Tcp τ → Network τ → List (WireEntry τ) → Prop
  | made (target : Target) (connectTimeout ioTimeout : τ) (lineLimit : Whole) (n : Network τ) :
      Lifetime { target, connectTimeout, ioTimeout, lineLimit } n []
  /-- Anything happens on the network. -/
  | elsewhere {t : Tcp τ} {n : Network τ} {entries : List (WireEntry τ)} (h : Lifetime t n entries)
      (n' : Network τ) : Lifetime t n' entries
  | connect {t t' : Tcp τ} {n n' : Network τ} {entries : List (WireEntry τ)} {result : Except Fault Bool}
      (h : Lifetime t n entries) (hsystem : (n.coming.headD {}).FailsAsSystem)
      (hcall : t.connect n = (result, t', n')) : Lifetime t' n' (entries ++ n.since n')
  | disconnect {t : Tcp τ} {n : Network τ} {entries : List (WireEntry τ)} (h : Lifetime t n entries) :
      Lifetime (t.disconnect n).1 (t.disconnect n).2 (entries ++ n.since (t.disconnect n).2)
  | probe {t t' : Tcp τ} {n n' : Network τ} {entries : List (WireEntry τ)} {alive : Bool}
      (h : Lifetime t n entries) (hcall : t.probe n = (alive, t', n')) :
      Lifetime t' n' (entries ++ n.since n')
  | send {t t' : Tcp τ} {n n' : Network τ} {entries : List (WireEntry τ)} {done : Bool}
      (h : Lifetime t n entries) (bytes : List UInt8) (hcall : t.send n bytes = (done, t', n')) :
      Lifetime t' n' (entries ++ n.since n')
  | receive {t t' : Tcp τ} {n n' : Network τ} {entries : List (WireEntry τ)}
      {line : Option (List UInt8)} (h : Lifetime t n entries) (hcall : t.receive n = (line, t', n')) :
      Lifetime t' n' (entries ++ n.since n')
  | exchange {t t' : Tcp τ} {n n' : Network τ} {entries : List (WireEntry τ)}
      {line : Option (List UInt8)} (h : Lifetime t n entries) (bytes : List UInt8)
      (hcall : t.exchange n bytes = (line, t', n')) : Lifetime t' n' (entries ++ n.since n')

namespace Lifetime

variable {t t' : Tcp τ} {n n' : Network τ} {entries : List (WireEntry τ)}

/-- Every call keeps the transport tidy and takes its sockets one after the other. -/
theorem kept (h : Lifetime t n entries) : t.Kept entries := by
  induction h with
  | made target connectTimeout ioTimeout lineLimit n =>
      exact ⟨⟨by simp, fun _ => rfl, LineBuffer.within_empty _⟩, .nil none⟩
  | elsewhere _ _ ih => exact ih
  | connect _ hsystem hcall ih => exact ih.call (ih.tidy.connect hcall hsystem)
  | disconnect _ ih => exact ih.call (Tcp.leaves_disconnect _ _)
  | probe _ hcall ih => exact ih.call (ih.tidy.probe hcall)
  | send _ _ hcall ih => exact ih.call (ih.tidy.send hcall)
  | receive _ hcall ih => exact ih.call (ih.tidy.receive hcall)
  | exchange _ _ hcall ih => exact ih.call (ih.tidy.exchange hcall)

/-- After every call, whatever has failed: the transport is connected exactly while it holds a socket;
every socket it has created has been closed, except for the one it holds; without a connection nothing is
pending or skipped; and what is pending holds no line end and stays within the bound, while any bytes are
read too.  At no moment has more than one socket been open. -/
theorem openSockets_eq_held_buffer_within (h : Lifetime t n entries) :
    (t.connected = true ↔ t.socket.isSome = true) ∧
      (∀ before id after, entries = before ++ .call (.create id) :: after →
        t.socket = some id ∨ .call (.close id) ∈ after) ∧
      (t.connected = false → t.buffer.pending = #[] ∧ t.buffer.discarding = false) ∧
      ¬ lineEnd <:+: t.buffer.pending.toList ∧
      (t.buffer.pending.size : Int) ≤ max (t.lineLimit.value - 1) 1 ∧
      openSockets entries = t.socket.toList ∧
      (∀ past, past <+: entries → (openSockets past).length ≤ 1) ∧
      ∀ bytes, ((t.buffer.absorb t.lineLimit.value bytes).1.pending.size : Int) ≤
        max (t.lineLimit.value - 1) 1 := by
  obtain ⟨htidy, hturn⟩ := h.kept
  refine ⟨htidy.connected_iff, ?_, ?_, htidy.within.noLineEnd, htidy.within.size_le, hturn.openSockets_eq,
    fun past => hturn.length_openSockets_le, fun bytes => (htidy.within.absorb bytes).size_le⟩
  · rintro before id after rfl
    exact hturn.held_or_closed_of_create
  · intro hclosed
    rw [htidy.clear hclosed]
    exact ⟨rfl, rfl⟩

/-- A socket that fails halfway through its set-up and then in its closing, so that connecting raises; and a
second one, on which a line has come up to the bound. -/
theorem openSockets_eq_held_buffer_within_failing_close :
    ∃ (t : Tcp Int) (n : Network Int) (entries : List (WireEntry Int)), Lifetime t n entries ∧
      t.connected = true ∧ t.socket = some 1 ∧ t.buffer = ⟨#[65, 66, 67], false⟩ ∧
      entries.filter (fun e => !e.isUse) =
        [.call (.create 0), .call (.close 0), .call (.create 1)] ∧ openSockets entries = [1] ∧
      (t.buffer.pending.size : Int) ≤ max (t.lineLimit.value - 1) 1 ∧ t.lineLimit.value = 4 := by
  have hmade := Lifetime.made (⟨.text "10.0.0.2", .int 7000⟩ : Target) (3 : Int) 1 ⟨4, false⟩
    { clock := 0, coming := [
      { optionError := some "TCP_NODELAY", closeError := some "bad descriptor" },
      { arrivals := [.data [65, 66, 67]] }] }
  have hraised := hmade.connect (Socket.failsAsSystem_iff.mpr rfl) rfl
  have hread := (hraised.connect (Socket.failsAsSystem_iff.mpr rfl) rfl).receive rfl
  obtain ⟨-, -, -, -, hsize, hopen, -⟩ := hread.openSockets_eq_held_buffer_within
  exact ⟨_, _, _, hread, rfl, rfl, rfl, rfl, hopen, hsize, rfl⟩

end Lifetime

end PeripheralLink
