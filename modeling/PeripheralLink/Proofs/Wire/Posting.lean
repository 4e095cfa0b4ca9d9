import PeripheralLink.Proofs.Wire.Opening
import PeripheralLink.Wire.Lan
/-!
What the sockets of a network take.  Only sending hands bytes to a socket: `Tcp.Posts` is what sending and an
exchange do, and `Tcp.Moves` what all other calls have in common, which hand over nothing and at most let go of
the socket in use or take a fresh one.  `Lan.Moves` and `Lan.Posts` say the same of the calls on a network and its
transports.
-/

namespace PeripheralLink

namespace Network

variable {τ : Type} {n n' n'' : Network τ} {entries : List (WireEntry τ)}

/-- The bytes that a socket has taken, as far as they are entered in the journal. -/
def taken (n : Network τ) (s : Nat) : List UInt8 := n.journal.toList.flatMap (WireEntry.accepted s)

theorem Adds.taken (h : n.Adds n' entries) (s : Nat) :
    n'.taken s = n.taken s ++ entries.flatMap (WireEntry.accepted s) := by
  rw [Network.taken, h, List.flatMap_append, Network.taken]

/-- The sockets are the same, and none has taken anything. -/
structure Calm (n n' : Network τ) : Prop where
  size : n'.sockets.size = n.sockets.size
  taken : ∀ s, n'.taken s = n.taken s

theorem Calm.trans (h : n.Calm n') (h' : n'.Calm n'') : n.Calm n'' :=
  ⟨h'.size.trans h.size, fun s => (h'.taken s).trans (h.taken s)⟩

theorem calm_of_quietly (hsize : n'.sockets.size = n.sockets.size) (h : n.Quietly n') : n.Calm n' := by
  obtain ⟨entries, hadds, hquiet⟩ := h
  refine ⟨hsize, fun s => ?_⟩
  rw [hadds.taken, (flatMap_of_quiet hquiet).2 s, List.append_nil]

theorem Calm.refl (n : Network τ) : n.Calm n := ⟨rfl, fun _ => rfl⟩

theorem calm_setSocket (n : Network τ) (id : Nat) (s : Socket τ) : n.Calm (n.setSocket id s) :=
  calm_of_quietly (by simp [setSocket]) (.of_journal rfl)

/-- Time passing is no concern of the sockets. -/
theorem Calm.at (h : n.Calm n') (clock : τ) : n.Calm { n' with clock } := ⟨h.size, h.taken⟩

theorem calm_record (n : Network τ) {call : SocketCall τ} (hquiet : (WireEntry.call call).Quiet) :
    n.Calm (n.record call) :=
  calm_of_quietly rfl (.record n hquiet)

theorem calm_report (n : Network τ) (notice : TransportNotice) : n.Calm (n.report notice) := by
  refine ⟨rfl, fun s => ?_⟩
  rw [(n.adds_report notice).taken]
  exact List.append_nil _

theorem calm_discard (n : Network τ) (id : Nat) : n.Calm (n.discard id).2 := by
  rw [snd_discard]
  exact n.calm_record ⟨fun _ => rfl, rfl⟩

theorem Prepares.calm (h : n.Prepares n') : n.Calm n' := by
  induction h with
  | refl => exact .refl n
  | record _ hcall ih =>
      refine ih.trans (calm_record _ ⟨fun s => ?_, rfl⟩)
      rename_i call _
      cases call with
      | send id bytes => cases hcall
      | _ => rfl
  | report _ ih => exact ih.trans (calm_report _ _)

/-- A socket that is created uses up a number, and has taken nothing. -/
theorem create_takes (n : Network τ) :
    n.create.2.sockets.size = n.sockets.size + 1 ∧ ∀ s, n.create.2.taken s = n.taken s := by
  unfold create
  dsimp only
  generalize n.coming.headD {} = next
  cases next.fault? .create with
  | some fault => exact ⟨Array.size_push _, fun s => rfl⟩
  | none => exact ⟨Array.size_push _, (Network.calm_record _ ⟨fun _ => rfl, rfl⟩).taken⟩

end Network

namespace Tcp

section

variable {τ : Type}

theorem calm_release (t : Tcp τ) (n : Network τ) : n.Calm (t.release n).2 :=
  Network.calm_of_quietly (congrArg Array.size (t.notes_release n).sockets) (t.release_spec n).quietly

theorem calm_drop (t : Tcp τ) (n : Network τ) (reason : TransportNotice) : n.Calm (t.drop n reason).2 :=
  (n.calm_report reason).trans (t.calm_release _)

/-- Chunks handed over to one socket are taken by no other. -/
theorem flatMap_sendEntries {s s' : Nat} (hother : s' ≠ s) (chunks : List (List UInt8)) :
    (sendEntries s chunks : List (WireEntry τ)).flatMap (WireEntry.accepted s') = [] := by
  rw [List.flatMap_eq_nil_iff]
  intro e he
  obtain ⟨chunk, -, rfl⟩ := List.mem_map.mp he
  exact if_neg hother.symm

variable {t t' : Tcp τ} {n n' n'' : Network τ}

/-- A call hands over nothing, and the transport goes on with its socket or has let go of it. -/
structure Stays (t : Tcp τ) (n : Network τ) (t' : Tcp τ) (n' : Network τ) : Prop where
  calm : n.Calm n'
  holds : t'.open? = t.open? ∨ t'.open? = none

theorem Stays.refl (t : Tcp τ) (n : Network τ) : t.Stays n t n := ⟨.refl n, .inl rfl⟩

/-- The end of a call that closes the connection for a reason. -/
theorem stays_of_drop (hcalm : n.Calm n') (t t' : Tcp τ) (reason : TransportNotice) :
    t.Stays n (t'.drop n' reason).1 (t'.drop n' reason).2 :=
  ⟨hcalm.trans (t'.calm_drop n' reason), .inr (congrArg Tcp.open? (t'.release_spec _).idle)⟩

theorem stays_disconnect (t : Tcp τ) (n : Network τ) : t.Stays n (t.disconnect n).1 (t.disconnect n).2 := by
  have hreleased := t.calm_release n
  refine ⟨?_, .inr (congrArg Tcp.open? (t.disconnect_spec n).idle)⟩
  unfold disconnect
  dsimp only
  split
  · exact hreleased.trans (Network.calm_report _ _)
  · exact hreleased

theorem stays_probe (t : Tcp τ) (n : Network τ) : t.Stays n (t.probe n).2.1 (t.probe n).2.2 := by
  unfold probe
  split
  · exact .refl t n
  · rename_i id _
    have hlooked := n.calm_setSocket id ((n.socket id).peek).2
    dsimp only
    split
    · exact stays_of_drop hlooked t t _
    · exact stays_of_drop hlooked t t _
    · exact ⟨hlooked, .inl rfl⟩

/-- One number for a socket has been used up, and nothing has been handed over. -/
structure Takes (n n' : Network τ) : Prop where
  size : n'.sockets.size = n.sockets.size + 1
  taken : ∀ s, n'.taken s = n.taken s

theorem Takes.calm (h : Takes n n') (hcalm : n'.Calm n'') : Takes n n'' :=
  ⟨hcalm.size.trans h.size, fun s => (hcalm.taken s).trans (h.taken s)⟩

theorem takes_of_create {created : Except Fault Nat} (h : (t.release n).2.create = (created, n')) :
    Takes n n' := by
  have hreleased := t.calm_release n
  obtain ⟨hsize, htaken⟩ := (t.release n).2.create_takes
  rw [h, hreleased.size] at hsize
  rw [h] at htaken
  exact ⟨hsize, fun s => (htaken s).trans (hreleased.taken s)⟩

theorem Dials.takes {id : Nat} {outcome : Except Fault Unit} (h : t.Dials n id outcome n') : Takes n n' := by
  obtain ⟨hcreate, hset⟩ := h
  rename_i n₁
  have hcalm := (t.idle.prepares_setUp n₁ id).calm
  rw [hset] at hcalm
  exact (takes_of_create hcreate).calm hcalm

/-- Connecting uses up one number for a socket, and hands over nothing. -/
theorem takes_connect {result : Except Fault Bool} (h : t.Connects n result t' n') : Takes n n' := by
  cases h with
  | refused hcreate => exact (takes_of_create hcreate).calm (Network.calm_report _ _)
  | uncreated hcreate _ => exact takes_of_create hcreate
  | opened hdials => exact hdials.takes.calm (Network.calm_report _ _)
  | @withdrawn id text n₁ _ _ hdials hdiscard =>
      have hclosed := Network.calm_discard (n₁.report (.connectFailed t.target text)) id
      rw [hdiscard] at hclosed
      exact (hdials.takes.calm (Network.calm_report _ _)).calm hclosed
  | broken hdials _ => exact hdials.takes

/-- A call hands over nothing.  The transport goes on with its socket, has let go of it, or has a fresh one. -/
structure Moves (t : Tcp τ) (n : Network τ) (t' : Tcp τ) (n' : Network τ) : Prop where
  size : n.sockets.size ≤ n'.sockets.size
  taken : ∀ s, n'.taken s = n.taken s
  holds : t'.open? = t.open? ∨ t'.open? = none ∨
    t'.open? = some n.sockets.size ∧ n.sockets.size < n'.sockets.size

theorem Stays.moves (h : t.Stays n t' n') : t.Moves n t' n' where
  size := Nat.le_of_eq h.calm.size.symm
  taken := h.calm.taken
  holds := h.holds.imp_right .inl

/-- Connecting takes a fresh socket or leaves the transport without one, unless there is a connection already. -/
theorem moves_connect (t : Tcp τ) (n : Network τ) : t.Moves n (t.connect n).2.1 (t.connect n).2.2 := by
  cases hclosed : t.connected with
  | true =>
      rw [connect, if_pos hclosed]
      exact (Stays.refl t n).moves
  | false =>
      obtain ⟨result, t', n', hcall⟩ : ∃ result t' n', t.connect n = (result, t', n') := ⟨_, _, _, rfl⟩
      rw [hcall]
      obtain ⟨hsize, htaken⟩ := takes_connect (connects hclosed hcall)
      obtain ⟨-, hup, hdown, -⟩ := connect_opening hclosed hcall
      refine ⟨Nat.le_of_lt (hsize ▸ Nat.lt_succ_self _), htaken, .inr ?_⟩
      by_cases hresult : result = .ok true
      · exact .inr ⟨congrArg Tcp.open? (hup hresult), hsize ▸ Nat.lt_succ_self _⟩
      · exact .inl (congrArg Tcp.open? (hdown hresult))

end

variable {τ : Type} [Zero τ] [Add τ] [Sub τ] [LE τ] [DecidableLE τ] {t t' : Tcp τ} {n n' : Network τ} {s : Nat}

theorem stays_receive (t : Tcp τ) (n : Network τ) : t.Stays n (t.receive n).2.1 (t.receive n).2.2 := by
  unfold receive
  split
  · exact .refl t n
  · rename_i id _
    dsimp only
    rcases (n.socket id).readLine _ _ _ _ _ with ⟨result, s, clock, buffer⟩
    have hread := (n.calm_setSocket id s).at clock
    cases result with
    | line bytes => exact ⟨hread, .inl rfl⟩
    | expired => exact ⟨hread, .inl rfl⟩
    | overflow => exact ⟨hread.trans (Network.calm_report _ _), .inl rfl⟩
    | failed text => exact stays_of_drop hread t { t with buffer } _
    | closed => exact stays_of_drop hread t { t with buffer } _

theorem send_of_closed (hopen : t.open? = none) (n : Network τ) (bytes : List UInt8) :
    t.send n bytes = (false, t, n) := by
  rw [send, hopen]

/-- A call has had bytes to send over a socket, which has taken a front part of them: the whole exactly if the
sending is done, and only then may the transport go on with the socket. -/
structure Posts (t : Tcp τ) (n : Network τ) (s : Nat) (bytes : List UInt8) (done : Bool) (t' : Tcp τ)
    (n' : Network τ) : Prop where
  size : n'.sockets.size = n.sockets.size
  takes : ∃ piece, piece <+: bytes ∧ (done = true ↔ piece = bytes) ∧ n'.taken s = n.taken s ++ piece
  others : ∀ s', s' ≠ s → n'.taken s' = n.taken s'
  holds : t'.open? = none ∨ done = true ∧ t'.open? = some s

/-- Sending leaves the other sockets alone. -/
theorem send_others (hopen : t.open? = some s) (bytes : List UInt8) :
    (t.send n bytes).2.2.sockets.size = n.sockets.size ∧
      ∀ s', s' ≠ s → (t.send n bytes).2.2.taken s' = n.taken s' := by
  simp only [send, hopen]
  rcases (n.socket s).writeAll _ _ _ _ _ _ with ⟨result, socket, clock, chunks⟩
  have hset := (n.calm_setSocket s socket).at clock
  obtain ⟨hwrites, hnotes⟩ := Network.foldr_record { n.setSocket s socket with clock } s chunks
  dsimp only
  generalize chunks.foldr _ _ = n₁ at hwrites hnotes
  have hrest {n₂ : Network τ} (hcalm : n₁.Calm n₂) :
      n₂.sockets.size = n.sockets.size ∧ ∀ s', s' ≠ s → n₂.taken s' = n.taken s' := by
    refine ⟨(hcalm.size.trans (congrArg Array.size hnotes.sockets)).trans hset.size, fun s' hother => ?_⟩
    rw [hcalm.taken, hwrites.taken, flatMap_sendEntries hother, List.append_nil]
    exact hset.taken s'
  cases result with
  | done => exact hrest (.refl n₁)
  | _ => exact hrest (t.calm_drop n₁ _)

theorem posts_send (hopen : t.open? = some s) (bytes : List UInt8) :
    t.Posts n s bytes (t.send n bytes).1 (t.send n bytes).2.1 (t.send n bytes).2.2 := by
  obtain ⟨hsize, hothers⟩ := send_others hopen (n := n) bytes
  cases hcall : t.send n bytes with
  | mk done rest =>
      rw [hcall] at hsize hothers
      obtain ⟨-, ht, entries, hadds, -, hfront, hall⟩ := send_spec hopen hcall
      refine ⟨hsize, ⟨_, hfront, hall, hadds.taken s⟩, hothers, ?_⟩
      cases done with
      | true => exact .inr ⟨rfl, (congrArg Tcp.open? ht).trans hopen⟩
      | false => exact .inl (congrArg Tcp.open? ht)

/-- An exchange sends, and what follows hands over nothing more. -/
theorem posts_exchange (hopen : t.open? = some s) (bytes : List UInt8) :
    t.Posts n s bytes (t.send n bytes).1 (t.exchange n bytes).2.1 (t.exchange n bytes).2.2 := by
  have hsent := posts_send (n := n) hopen bytes
  rw [exchange]
  generalize t.send n bytes = sending at hsent ⊢
  obtain ⟨done, t₁, n₁⟩ := sending
  cases done with
  | false => exact hsent
  | true =>
      obtain ⟨hcalm, hholds⟩ := t₁.stays_receive n₁
      obtain ⟨piece, hfront, hall, htaken⟩ := hsent.takes
      refine ⟨hcalm.size.trans hsent.size, ⟨piece, hfront, hall, (hcalm.taken s).trans htaken⟩,
        fun s' hother => (hcalm.taken s').trans (hsent.others s' hother), ?_⟩
      rcases hholds with hkept | hclosed
      · exact hkept ▸ hsent.holds
      · exact .inl hclosed

end Tcp

namespace Lan

variable {τ : Type}

def held (lan : Lan τ) (id : Nat) : Option Nat := lan.transports[id]?.bind Tcp.open?

/-- A call on a transport hands over nothing. -/
structure Moves (lan : Lan τ) (id : Nat) (lan' : Lan τ) : Prop where
  size : lan.net.sockets.size ≤ lan'.net.sockets.size
  taken : ∀ s, lan'.net.taken s = lan.net.taken s
  others : ∀ id', id' ≠ id → lan'.held id' = lan.held id'
  holds : lan'.held id = lan.held id ∨ lan'.held id = none ∨
    lan'.held id = some lan.net.sockets.size ∧ lan.net.sockets.size < lan'.net.sockets.size

/-- A call on a transport has had bytes to send over a socket. -/
structure Posts (lan : Lan τ) (id s : Nat) (bytes : List UInt8) (done : Bool) (lan' : Lan τ) : Prop where
  size : lan'.net.sockets.size = lan.net.sockets.size
  takes : ∃ piece, piece <+: bytes ∧ (done = true ↔ piece = bytes) ∧
    lan'.net.taken s = lan.net.taken s ++ piece
  elsewhere : ∀ s', s' ≠ s → lan'.net.taken s' = lan.net.taken s'
  others : ∀ id', id' ≠ id → lan'.held id' = lan.held id'
  holds : lan'.held id = none ∨ done = true ∧ lan'.held id = some s

variable {lan : Lan τ} {id s : Nat} {t : Tcp τ} {n : Network τ}

theorem held_of_get (ht : lan.transports[id]? = some t) : lan.held id = t.open? := by rw [held, ht]; rfl

/-- The transport that has been run is the only one that may hold another socket. -/
theorem held_set (ht : lan.transports[id]? = some t) (t' : Tcp τ) (n' : Network τ) :
    Lan.held ⟨n', lan.transports.setIfInBounds id t'⟩ id = t'.open? ∧
      ∀ id', id' ≠ id → Lan.held ⟨n', lan.transports.setIfInBounds id t'⟩ id' = lan.held id' := by
  refine ⟨held_of_get (Array.getElem?_setIfInBounds_self_of_lt (Array.getElem?_eq_some_iff.mp ht).1), ?_⟩
  intro id' hother
  simp only [held, Array.getElem?_setIfInBounds_ne hother.symm]

theorem Moves.refl (lan : Lan τ) (id : Nat) : lan.Moves id lan :=
  ⟨Nat.le_refl _, fun _ => rfl, fun _ _ => rfl, .inl rfl⟩

/-- Running a transport as the run leaves it; a number that stands for none leaves all as it is. -/
theorem moves_via {α : Type} {default : α} {run : Tcp τ → Network τ → α × Tcp τ × Network τ}
    (hrun : ∀ (t : Tcp τ) n, t.Moves n (run t n).2.1 (run t n).2.2) (lan : Lan τ) (id : Nat) :
    lan.Moves id (lan.via id default run).2 := by
  unfold via
  split
  · exact .refl lan id
  · rename_i t ht
    obtain ⟨hsize, htaken, hholds⟩ := hrun t lan.net
    obtain ⟨hheld, hothers⟩ := held_set ht (run t lan.net).2.1 (run t lan.net).2.2
    refine ⟨hsize, htaken, hothers, ?_⟩
    rw [hheld, held_of_get ht]
    exact hholds

theorem moves_build [Zero τ] [Add τ] [Sub τ] [LE τ] [DecidableLE τ] (lan : Lan τ) (limits : TransportLimits τ)
    (target : Target) : lan.Moves lan.transports.size (Carrier.build lan limits target).2 := by
  refine ⟨Nat.le_refl _, fun _ => rfl, fun id' hother => ?_, .inr (.inl ?_)⟩
  · simp only [held, Carrier.build, build, Array.getElem?_push, if_neg hother]
  · simp only [held, Carrier.build, build, Array.getElem?_push_size]
    rfl

variable [Zero τ] [Add τ] [Sub τ] [LE τ] [DecidableLE τ]

theorem moves_connect (lan : Lan τ) (id : Nat) : lan.Moves id (Carrier.connect lan id).2 :=
  lan.moves_via (fun t n => t.moves_connect n) id

theorem moves_disconnect (lan : Lan τ) (id : Nat) : lan.Moves id (Carrier.disconnect lan id) :=
  lan.moves_via (fun t n => (t.stays_disconnect n).moves) id

theorem moves_probe (lan : Lan τ) (id : Nat) : lan.Moves id (Carrier.probe lan id).2 :=
  lan.moves_via (fun t n => (t.stays_probe n).moves) id

theorem moves_receive (lan : Lan τ) (id : Nat) : lan.Moves id (Carrier.receive lan id).2 :=
  lan.moves_via (fun t n => (t.stays_receive n).moves) id

/-- Nothing is sent over a transport that has no socket open. -/
theorem send_of_unheld (hheld : lan.held id = none) (bytes : List UInt8) :
    (Carrier.send lan id bytes).1 = false ∧ lan.Moves id (Carrier.send lan id bytes).2 ∧
      Carrier.exchange lan id bytes = (.ok none, (Carrier.send lan id bytes).2) := by
  simp only [Carrier.send, Carrier.exchange, via]
  cases ht : lan.transports[id]? with
  | none => exact ⟨rfl, .refl lan id, rfl⟩
  | some t =>
      have hclosed : t.open? = none := (held_of_get ht).symm.trans hheld
      have hsame := held_set ht t lan.net
      simp only [Tcp.exchange, Tcp.send_of_closed hclosed]
      exact ⟨trivial, ⟨Nat.le_refl _, fun _ => rfl, hsame.2, .inr (.inl (hsame.1.trans hclosed))⟩, trivial⟩

theorem posts_send (hheld : lan.held id = some s) (bytes : List UInt8) :
    lan.Posts id s bytes (Carrier.send lan id bytes).1 (Carrier.send lan id bytes).2 := by
  simp only [Carrier.send, via]
  cases ht : lan.transports[id]? with
  | none => simp [held, ht] at hheld
  | some t =>
      obtain ⟨hsize, htakes, helsewhere, hholds⟩ :=
        Tcp.posts_send (n := lan.net) ((held_of_get ht).symm.trans hheld) bytes
      obtain ⟨hself, hothers⟩ := held_set ht (t.send lan.net bytes).2.1 (t.send lan.net bytes).2.2
      exact ⟨hsize, htakes, helsewhere, hothers, hself ▸ hholds⟩

theorem posts_exchange (hheld : lan.held id = some s) (bytes : List UInt8) :
    lan.Posts id s bytes (Carrier.send lan id bytes).1 (Carrier.exchange lan id bytes).2 := by
  simp only [Carrier.send, Carrier.exchange, via]
  cases ht : lan.transports[id]? with
  | none => simp [held, ht] at hheld
  | some t =>
      obtain ⟨hsize, htakes, helsewhere, hholds⟩ :=
        Tcp.posts_exchange (n := lan.net) ((held_of_get ht).symm.trans hheld) bytes
      obtain ⟨hself, hothers⟩ := held_set ht (t.exchange lan.net bytes).2.1 (t.exchange lan.net bytes).2.2
      exact ⟨hsize, htakes, helsewhere, hothers, hself ▸ hholds⟩

/-- An exchange that comes back with a line has sent its message whole. -/
theorem sends_of_exchange {bytes line : List UInt8} (h : (Carrier.exchange lan id bytes).1 = .ok (some line)) :
    (Carrier.send lan id bytes).1 = true := by
  simp only [Carrier.send, Carrier.exchange, via] at h ⊢
  cases ht : lan.transports[id]? with
  | none => simp [ht] at h
  | some t =>
      simp only [ht] at h ⊢
      exact (Tcp.exchange_eq_some (Prod.ext (Except.ok.inj h) rfl)).1

end Lan

end PeripheralLink
