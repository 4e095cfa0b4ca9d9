import Mathlib.Algebra.BigOperators.Group.Finset.Piecewise
import PeripheralLink.Proofs.Rig.Dialogue
import PeripheralLink.Proofs.Rig.Stages
import PeripheralLink.Proofs.Wire.Posting
/-!
Posts: messages whose lines a socket has taken whole.  `Posted` is what holds between the posts of a rig and the
bytes that its sockets have taken: on every socket stand the lines of its posts, in order, and at most a piece of one
more line.  Every part of what a link does keeps it, and only sending and exchanging add a post: `Posted.given`.
-/

namespace PeripheralLink

def linesOn (s : Nat) (posts : List (Nat × Message)) : List (List UInt8) :=
  (posts.filter (·.1 = s)).map (·.2.body)

section

variable {s : Nat} {posts : List (Nat × Message)}

theorem linesOn_concat_self (s : Nat) (posts : List (Nat × Message)) (m : Message) :
    linesOn s (posts ++ [(s, m)]) = linesOn s posts ++ [m.body] := by
  simp [linesOn]

theorem linesOn_concat_other {s' : Nat} (hother : s' ≠ s) (posts : List (Nat × Message)) (m : Message) :
    linesOn s (posts ++ [(s', m)]) = linesOn s posts := by
  simp [linesOn, hother]

theorem not_mem_linesOn {line : List UInt8} (h : line ∈ linesOn s posts) : 10 ∉ line := by
  obtain ⟨p, -, rfl⟩ := List.mem_map.mp h
  exact p.2.not_mem_body

/-- Every post is on one socket. -/
theorem sum_length_linesOn {n : Nat} (h : ∀ p ∈ posts, p.1 < n) :
    ∑ s ∈ Finset.range n, (linesOn s posts).length = posts.length := by
  induction posts with
  | nil => simp [linesOn]
  | cons p posts ih =>
      have hfirst (s : Nat) : (linesOn s (p :: posts)).length =
          (linesOn s posts).length + if p.1 = s then 1 else 0 := by
        by_cases hp : p.1 = s <;> simp [linesOn, hp]
      have hone : ∑ s ∈ Finset.range n, (if p.1 = s then 1 else 0) = 1 := by
        rw [Finset.sum_ite_eq, if_pos (Finset.mem_range.mpr (h p List.mem_cons_self))]
      rw [Finset.sum_congr rfl fun s _ => hfirst s, Finset.sum_add_distrib, hone,
        ih fun p hp => h p (List.mem_cons_of_mem _ hp), List.length_cons]

end

/-- A piece of a line that is not the whole of it has no line feed. -/
theorem not_mem_of_piece {line piece : List UInt8} (hline : 10 ∉ line) (hfront : piece <+: line ++ lineEnd)
    (hpart : piece ≠ line ++ lineEnd) : 10 ∉ piece := by
  have hsplit : line ++ lineEnd = (line ++ [13]) ++ [10] := by simp [lineEnd]
  rw [hsplit] at hfront hpart
  have hopen := (List.prefix_concat_iff.mp hfront).resolve_left hpart
  exact fun hmem => absurd (hopen.subset hmem) (by simpa using hline)

theorem framed_concat (lines : List (List UInt8)) (line : List UInt8) :
    framed (lines ++ [line]) = framed lines ++ (line ++ lineEnd) := by
  simp [framed]

/-- The complete lines of a stream that ends in a piece of a line. -/
theorem segments_framed_append {lines : List (List UInt8)} {piece : List UInt8} (hlines : ∀ line ∈ lines, 10 ∉ line)
    (hpiece : 10 ∉ piece) : (segments (framed lines ++ piece)).1 = lines := by
  rw [segments_append, segments_framed hlines, List.nil_append, segments_of_not_mem hpiece, List.append_nil]

namespace Rig

variable {τ : Type}

/-- How many complete lines the sockets have taken. -/
def linesTaken (r : Rig (Lan τ) τ) : Nat :=
  ∑ s ∈ Finset.range r.outside.net.sockets.size, (segments (r.accepted s)).1.length

/-- Between the posts of a rig and what its sockets have taken: no socket is open in two transports, and none that
has not been created; and a socket that is open has taken whole lines only. -/
structure Posted (r : Rig (Lan τ) τ) (posts : List (Nat × Message)) : Prop where
  within : ∀ id s, r.outside.held id = some s → s < r.outside.net.sockets.size
  apart : ∀ id id' s, r.outside.held id = some s → r.outside.held id' = some s → id = id'
  streams : ∀ s, ∃ piece, r.accepted s = framed (linesOn s posts) ++ piece ∧ 10 ∉ piece ∧
    ∀ id, r.outside.held id = some s → piece = []
  fresh : ∀ s, r.outside.net.sockets.size ≤ s → r.accepted s = []

namespace Posted

variable {r r' : Rig (Lan τ) τ} {posts : List (Nat × Message)}

/-- Posts go over sockets that have been created. -/
theorem lt_size (h : r.Posted posts) : ∀ p ∈ posts, p.1 < r.outside.net.sockets.size := by
  intro p hp
  by_contra hfresh
  obtain ⟨piece, haccepted, -⟩ := h.streams p.1
  rw [h.fresh p.1 (by omega), eq_comm, List.append_eq_nil_iff] at haccepted
  have hline : p.2.body ∈ linesOn p.1 posts := List.mem_map.mpr ⟨p, by simpa using hp, rfl⟩
  have hends := List.flatMap_eq_nil_iff.mp haccepted.1 _ hline
  simp [lineEnd] at hends

/-- The complete lines that a socket has taken are those of its posts. -/
theorem segments_accepted (h : r.Posted posts) (s : Nat) : (segments (r.accepted s)).1 = linesOn s posts := by
  obtain ⟨piece, haccepted, hpiece, -⟩ := h.streams s
  rw [haccepted, segments_framed_append (fun _ => not_mem_linesOn) hpiece]

theorem linesTaken (h : r.Posted posts) : r.linesTaken = posts.length := by
  rw [Rig.linesTaken, ← sum_length_linesOn h.lt_size]
  exact Finset.sum_congr rfl fun s _ => congrArg List.length (h.segments_accepted s)

/-- Nothing is handed over, and one transport may have let go of its socket or have a fresh one. -/
theorem moved (h : r.Posted posts) (id : Nat)
    (hsize : r.outside.net.sockets.size ≤ r'.outside.net.sockets.size)
    (haccepted : ∀ s, r'.accepted s = r.accepted s)
    (hothers : ∀ id', id' ≠ id → r'.outside.held id' = r.outside.held id')
    (hholds : r'.outside.held id = r.outside.held id ∨ r'.outside.held id = none ∨
      r'.outside.held id = some r.outside.net.sockets.size ∧
        r.outside.net.sockets.size < r'.outside.net.sockets.size) : r'.Posted posts := by
  have hheld (id' s : Nat) (hs : r'.outside.held id' = some s) : r.outside.held id' = some s ∨
      id' = id ∧ s = r.outside.net.sockets.size ∧ s < r'.outside.net.sockets.size := by
    by_cases hid : id' = id
    · subst hid
      rcases hholds with hkept | hgone | ⟨hfresh, hless⟩
      · exact .inl (hkept.symm.trans hs)
      · exact absurd (hgone.symm.trans hs) nofun
      · obtain rfl := Option.some.inj (hfresh.symm.trans hs)
        exact .inr ⟨rfl, rfl, hless⟩
    · exact .inl ((hothers id' hid).symm.trans hs)
  refine ⟨fun id' s hs => ?_, fun id₁ id₂ s h₁ h₂ => ?_, fun s => ?_, fun s hs => ?_⟩
  · rcases hheld id' s hs with hkept | ⟨-, -, hless⟩
    · exact Nat.lt_of_lt_of_le (h.within id' s hkept) hsize
    · exact hless
  · rcases hheld id₁ s h₁ with hkept₁ | ⟨rfl, hs₁, -⟩ <;> rcases hheld id₂ s h₂ with hkept₂ | ⟨rfl, hs₂, -⟩
    · exact h.apart id₁ id₂ s hkept₁ hkept₂
    · exact absurd (h.within id₁ s hkept₁) (by omega)
    · exact absurd (h.within id₂ s hkept₂) (by omega)
    · rfl
  · obtain ⟨piece, hstream, hpiece, hwhole⟩ := h.streams s
    refine ⟨piece, (haccepted s).trans hstream, hpiece, fun id' hs => ?_⟩
    rcases hheld id' s hs with hkept | ⟨-, rfl, -⟩
    · exact hwhole id' hkept
    · -- a fresh socket has taken nothing
      rw [h.fresh _ (Nat.le_refl _), eq_comm, List.append_eq_nil_iff] at hstream
      exact hstream.2
  · exact (haccepted s).trans (h.fresh s (hsize.trans hs))

theorem congr (h : r.Posted posts) (houtside : r'.outside = r.outside)
    (haccepted : ∀ s, r'.accepted s = r.accepted s) : r'.Posted posts :=
  h.moved 0 (by rw [houtside]) haccepted (fun _ _ => by rw [houtside]) (.inl (by rw [houtside]))

theorem report (h : r.Posted posts) (n : Report τ) : (r.report n).Posted posts := by
  refine h.congr rfl fun s => ?_
  have hnone : Entry.accepted (τ := τ) s (.report n) = [] := rfl
  simp [accepted, Rig.report, record, List.flatMap_append, hnone]

theorem setLink (h : r.Posted posts) (k : Nat) (l : Link τ) : (r.setLink k l).Posted posts :=
  h.congr rfl fun _ => rfl

theorem enter (h : r.Posted posts) (k : Nat) (u : Use) : (r.enter k u).2.Posted posts := by
  unfold Rig.enter
  split
  · exact h
  · split
    · exact h
    · split
      · exact h.report _
      · exact h

variable [Zero τ] [Add τ] [Sub τ] [LE τ] [DecidableLE τ]

/-- After a call the journal of the network has gone over to the rig. -/
theorem accepted_via {α : Type} (r : Rig (Lan τ) τ) (call : Lan τ → α × Lan τ) (s : Nat) :
    (r.via call).2.accepted s =
      r.journal.toList.flatMap (Entry.accepted s) ++ (call r.outside).2.net.taken s := by
  rw [accepted]
  simp only [via, Carrier.drain, Array.toList_appendList, List.flatMap_append, flatMap_accepted_entry,
    Network.taken, List.flatMap_nil, List.append_nil]

theorem via_moves {α : Type} {call : Lan τ → α × Lan τ} (h : r.Posted posts) {id : Nat}
    (hmoves : r.outside.Moves id (call r.outside).2) : (r.via call).2.Posted posts := by
  refine h.moved id hmoves.size (fun s => ?_) hmoves.others hmoves.holds
  rw [accepted_via, hmoves.taken]
  rfl

/-- Bytes are handed over that are the line of a message: it is posted if the socket has taken them all. -/
theorem via_posts {α : Type} {call : Lan τ → α × Lan τ} (h : r.Posted posts) {id s : Nat} {m : Message}
    {done : Bool} (hheld : r.outside.held id = some s)
    (hposts : r.outside.Posts id s (m.body ++ lineEnd) done (call r.outside).2) :
    (r.via call).2.Posted (if done then posts ++ [(s, m)] else posts) := by
  have haccepted := accepted_via r call
  obtain ⟨hsize, ⟨piece, hfront, hall, htaken⟩, helsewhere, hothers, hholds⟩ := hposts
  have hsame (s' : Nat) (hother : s' ≠ s) : (r.via call).2.accepted s' = r.accepted s' := by
    rw [haccepted, helsewhere s' hother]
    rfl
  have hkept (id' s' : Nat) (hs : (r.via call).2.outside.held id' = some s') : r.outside.held id' = some s' := by
    by_cases hid : id' = id
    · subst hid
      rcases hholds with hgone | ⟨-, hstill⟩
      · exact absurd (hgone.symm.trans hs) nofun
      · exact hheld.trans (hstill.symm.trans hs)
    · exact (hothers id' hid).symm.trans hs
  refine ⟨fun id' s' hs => ?_, fun id₁ id₂ s' h₁ h₂ => h.apart id₁ id₂ s' (hkept _ _ h₁) (hkept _ _ h₂),
    fun s' => ?_, fun s' hs => ?_⟩
  · exact Nat.lt_of_lt_of_eq (h.within id' s' (hkept id' s' hs)) hsize.symm
  · obtain ⟨before, hstream, hbefore, hwhole⟩ := h.streams s'
    by_cases hs' : s' = s
    · subst hs'
      obtain rfl := hwhole id hheld
      rw [List.append_nil] at hstream
      have hnow : (r.via call).2.accepted s' = framed (linesOn s' posts) ++ piece := by
        rw [haccepted, htaken, ← List.append_assoc, ← hstream]
        rfl
      cases done with
      | true =>
          refine ⟨[], ?_, List.not_mem_nil, fun _ _ => rfl⟩
          rw [hnow, if_pos rfl, linesOn_concat_self, framed_concat, hall.mp rfl, List.append_nil]
      | false =>
          have hpart : piece ≠ m.body ++ lineEnd := fun heq => absurd (hall.mpr heq) nofun
          refine ⟨piece, hnow, not_mem_of_piece m.not_mem_body hfront hpart, fun id' hs => ?_⟩
          -- the transport that held the socket has let go of it
          obtain rfl := h.apart id' id s' (hkept id' s' hs) hheld
          rcases hholds with hgone | ⟨hdone, -⟩
          · exact absurd (hgone.symm.trans hs) nofun
          · cases hdone
    · refine ⟨before, ?_, hbefore, fun id' hs => hwhole id' (hkept id' s' hs)⟩
      rw [hsame s' hs', hstream]
      cases done with
      | true => rw [if_pos rfl, linesOn_concat_other (Ne.symm hs')]
      | false => rfl
  · have hold : r.outside.net.sockets.size ≤ s' := Nat.le_trans (Nat.le_of_eq hsize.symm) hs
    have hless := h.within id s hheld
    exact (hsame s' (by omega)).trans (h.fresh s' hold)

theorem performing (posts : List (Nat × Message)) : Performing fun r : Rig (Lan τ) τ => r.Posted posts where
  setLink k l h := h.setLink k l
  report n h := h.report (.link n)
  releasing id h := h.via_moves (Lan.moves_disconnect _ id)
  probing id h := h.via_moves (Lan.moves_probe _ id)

end Posted

section

variable [Zero τ] [Add τ] [Sub τ] [LE τ] [DecidableLE τ]

/-- The socket that takes these bytes whole when a transport sends them, if it does. -/
def takenBy (r : Rig (Lan τ) τ) (id : Nat) (bytes : List UInt8) : Option Nat :=
  if (Carrier.send r.outside id bytes).1 then r.outside.held id else none

theorem isSome_takenBy (r : Rig (Lan τ) τ) (id : Nat) (bytes : List UInt8) :
    (r.takenBy id bytes).isSome = (Carrier.send r.outside id bytes).1 := by
  unfold takenBy
  cases hheld : r.outside.held id with
  | none => simp [(Lan.send_of_unheld hheld bytes).1]
  | some s => cases (Carrier.send r.outside id bytes).1 <;> rfl

/-- Sending and exchanging post the message whose line the socket takes whole, and nothing else. -/
theorem Posted.given {r : Rig (Lan τ) τ} {posts : List (Nat × Message)} (h : r.Posted posts) (id : Nat)
    {m : Message} {bytes : List UInt8} (hbytes : m.lineBytes = .ok bytes) :
    (r.via fun o => Carrier.send o id bytes).2.Posted (posts ++ ((r.takenBy id bytes).map (·, m)).toList) ∧
      (r.via fun o => Carrier.exchange o id bytes).2.Posted
        (posts ++ ((r.takenBy id bytes).map (·, m)).toList) := by
  cases hheld : r.outside.held id with
  | none =>
      obtain ⟨-, hmoves, hexchange⟩ := Lan.send_of_unheld hheld bytes
      have hnone : r.takenBy id bytes = none := by rw [takenBy, hheld, ite_self]
      rw [hnone, Option.map_none, Option.toList_none, List.append_nil]
      have hexchanges : r.outside.Moves id (Carrier.exchange r.outside id bytes).2 := by
        rw [hexchange]
        exact hmoves
      exact ⟨h.via_moves hmoves, h.via_moves hexchanges⟩
  | some s =>
      obtain rfl := Message.eq_of_lineBytes hbytes
      have hposts : posts ++ ((r.takenBy id (m.body ++ lineEnd)).map (·, m)).toList =
          if (Carrier.send r.outside id (m.body ++ lineEnd)).1 then posts ++ [(s, m)] else posts := by
        rw [takenBy, hheld]
        split <;> simp
      rw [hposts]
      exact ⟨h.via_posts hheld (Lan.posts_send hheld _), h.via_posts hheld (Lan.posts_exchange hheld _)⟩

end

end Rig

end PeripheralLink
