import Mathlib.Data.List.Forall2
import PeripheralLink.Companion.Server
import PeripheralLink.Proofs.Message.Body
import PeripheralLink.Proofs.Message.Words
import PeripheralLink.Proofs.Wire.Framing
/-!
What the companion makes of what a link sends.  `Companion.serve_eq` says that it does not matter how the
bytes come in: serving a link is handling the segments of all that was received.  Where those are lines
of messages, each of them is handled once and answered by its reply, unless sending that fails
(`Companion.serves`), and the bytes that the companion's socket has carried tell whether one has failed
(`Answered.framed_of_conveyed`).
-/

namespace PeripheralLink

/-- The answer that a message deserves: a device request gets the device's description, any other message
an empty acknowledgement, and the addresses change places. -/
structure Message.Answers (answer m : Message) : Prop where
  command : answer.command = if m.command = deviceRequest then deviceInfo else acknowledgement
  destination : answer.destination = m.origin
  origin : answer.origin = m.destination
  wordCount : answer.wordCount = if m.command = deviceRequest then deviceDescription.length else 0
  words : m.command = deviceRequest → ∀ i (h : i < deviceDescription.length),
    answer.getWord (i : Int) = .ok (deviceDescription[i]).toNat

namespace Message

variable {m m' answer : Message}

theorem checkByte_of_byte (field : HeaderField) {n : Int} (h : 0 ≤ n ∧ n ≤ 255) :
    checkByte field (.int n) = .ok n := if_pos h

theorem make_empty {command destination origin : Int} (hcommand : 0 ≤ command ∧ command ≤ 255)
    (hdestination : 0 ≤ destination ∧ destination ≤ 255) (horigin : 0 ≤ origin ∧ origin ≤ 255) :
    make (.int command) (.int destination) (.int origin) (.int 0) [] =
      .ok { command, destination, origin, payload := Payload.ofList [] } := by
  simp only [make, checkByte_of_byte _ hcommand, checkByte_of_byte _ hdestination,
    checkByte_of_byte _ horigin, checkByte_of_byte _ (show (0 : Int) ≤ 0 ∧ (0 : Int) ≤ 255 by decide)]
  rfl

/-- Every message whose header fits has an answer. -/
theorem reply_of_headerFits (hfits : m.HeaderFits) : ∃ answer, m.reply = .ok answer ∧ answer.Answers m := by
  obtain ⟨-, hdestination, horigin, -⟩ := headerFits_iff.mp hfits
  by_cases hdevice : m.command = deviceRequest
  · let blank : Message := { command := deviceInfo, destination := m.origin, origin := m.destination
                             payload := Payload.ofList [] }
    have hmake : make (.int deviceInfo) (.int m.origin) (.int m.destination) (.int 0) [] = .ok blank :=
      make_empty (by decide) horigin hdestination
    obtain ⟨⟨hcommand, hto, hfrom, hcount⟩, -, hwords⟩ := setWords_of_wordCount (m := blank)
      deviceDescription (show blank.wordCount = (0 : Nat) from rfl) (by decide)
    refine ⟨blank.setWords 0 deviceDescription, ?_, ⟨?_, hto, hfrom, ?_, ?_⟩⟩
    · simp only [reply, hdevice, ↓reduceIte, hmake, bind, Except.bind, pure, Except.pure]
    · rw [if_pos hdevice]
      exact hcommand
    · rw [if_pos hdevice]
      exact hcount
    · intro _ i hi
      have hsmall : ∀ word ∈ deviceDescription, word % 2 ^ 32 = word := by decide
      have hword := hwords i hi
      rwa [Nat.zero_add, hsmall _ (List.getElem_mem hi)] at hword
  · have hmake := make_empty (show 0 ≤ acknowledgement ∧ acknowledgement ≤ 255 by decide) horigin
      hdestination
    refine ⟨{ command := acknowledgement, destination := m.origin, origin := m.destination
              payload := Payload.ofList [] }, ?_, ⟨?_, rfl, rfl, ?_, fun hyes => absurd hyes hdevice⟩⟩
    · simp only [reply, hdevice, ↓reduceIte, hmake, bind, Except.bind, pure, Except.pure]
    · rw [if_neg hdevice]
    · rw [if_neg hdevice]
      rfl

theorem Answers.headerFits (h : answer.Answers m) (hfits : m.HeaderFits) : answer.HeaderFits := by
  obtain ⟨-, hdestination, horigin, -⟩ := headerFits_iff.mp hfits
  rw [headerFits_iff, h.command, h.destination, h.origin, h.wordCount]
  refine ⟨?_, horigin, hdestination, ?_⟩ <;> split <;> decide

/-- The answer looks at the command and the addresses only. -/
theorem reply_congr (hsame : m'.same m = true) : m'.reply = m.reply := by
  obtain ⟨hcommand, hdestination, horigin, -⟩ := same_iff.mp hsame
  rw [reply, reply, hcommand, hdestination, horigin]

end Message

variable {τ : Type}

/-- An entry that neither reports a request nor sends a reply or reports one that could not be sent. -/
def CompanionEntry.IsQuiet : CompanionEntry τ → Prop
  | reply _ _ => False
  | report (.request _) => False
  | report (.replyFailed _) => False
  | _ => True

/-- The request that an entry reports. -/
def CompanionEntry.request? : CompanionEntry τ → Option Message
  | report (.request m) => some m
  | _ => none

/-- The journal of requests that were handled one after the other: each is reported, and then its answer is
sent to the visitor, or sending it fails, at once or with a part of its line gone out. -/
inductive Answered (visitor : Nat) : List Message → List (CompanionEntry τ) → Prop
  | nil : Answered visitor [] []
  | quiet {e : CompanionEntry τ} {ms : List Message} {es : List (CompanionEntry τ)} (he : e.IsQuiet)
      (h : Answered visitor ms es) : Answered visitor ms (e :: es)
  | sent {m answer : Message} {line : List Char} {ms : List Message} {es : List (CompanionEntry τ)}
      (hreply : m.reply = .ok answer) (hline : asciiBytes line = answer.body ++ lineEnd)
      (h : Answered visitor ms es) :
      Answered visitor (m :: ms) (.report (.request m) :: .reply visitor line :: es)
  | failed {m : Message} {reason : String} {ms : List Message} {es : List (CompanionEntry τ)}
      (h : Answered visitor ms es) :
      Answered visitor (m :: ms) (.report (.request m) :: .report (.replyFailed reason) :: es)
  | cut {m : Message} {piece : List Char} {reason : String} {ms : List Message}
      {es : List (CompanionEntry τ)} (hpiece : 10 ∉ asciiBytes piece) (h : Answered visitor ms es) :
      Answered visitor (m :: ms)
        (.report (.request m) :: .reply visitor piece :: .report (.replyFailed reason) :: es)

namespace Answered

variable {visitor : Nat} {ms ms' : List Message} {es es' : List (CompanionEntry τ)}

theorem append (h : Answered visitor ms es) (h' : Answered visitor ms' es') :
    Answered visitor (ms ++ ms') (es ++ es') := by
  induction h with
  | nil => exact h'
  | quiet he _ ih => exact .quiet he ih
  | sent hreply hline _ ih => exact .sent hreply hline ih
  | failed _ ih => exact .failed ih
  | cut hpiece _ ih => exact .cut hpiece ih

theorem requests (h : Answered visitor ms es) : es.filterMap CompanionEntry.request? = ms := by
  induction h with
  | nil => rfl
  | @quiet e _ _ he _ ih =>
      have hnone : e.request? = none := by
        cases e with
        | report notice => cases notice <;> first | rfl | exact he.elim
        | _ => rfl
      rw [List.filterMap_cons_none hnone, ih]
  | sent _ _ _ ih => exact congrArg (_ :: ·) ih
  | failed _ ih => exact congrArg (_ :: ·) ih
  | cut _ _ ih => exact congrArg (_ :: ·) ih

end Answered

/-- The bytes that the socket of a visitor has carried.  What was sent of a reply is carried whole; of one
whose sending failed there may be more, short of its line feed. -/
inductive Conveyed (visitor : Nat) : List (CompanionEntry τ) → List UInt8 → Prop
  | nil : Conveyed visitor [] []
  | reply (line : List Char) {es : List (CompanionEntry τ)} {bytes : List UInt8}
      (h : Conveyed visitor es bytes) :
      Conveyed visitor (.reply visitor line :: es) (asciiBytes line ++ bytes)
  | part (reason : String) {piece : List UInt8} (hpiece : 10 ∉ piece) {es : List (CompanionEntry τ)}
      {bytes : List UInt8} (h : Conveyed visitor es bytes) :
      Conveyed visitor (.report (.replyFailed reason) :: es) (piece ++ bytes)
  | other {e : CompanionEntry τ} (hreply : ∀ line, e ≠ .reply visitor line)
      (hfailed : ∀ reason, e ≠ .report (.replyFailed reason)) {es : List (CompanionEntry τ)}
      {bytes : List UInt8} (h : Conveyed visitor es bytes) : Conveyed visitor (e :: es) bytes

/-- The bytes of a reply that was sent to a visitor. -/
def CompanionEntry.replied (visitor : Nat) : CompanionEntry τ → List UInt8
  | reply taker line => if taker = visitor then asciiBytes line else []
  | _ => []

/-- A socket can always have carried the replies that were sent, and nothing of the others. -/
theorem conveyed_replied (visitor : Nat) (es : List (CompanionEntry τ)) :
    Conveyed visitor es (es.flatMap (CompanionEntry.replied visitor)) := by
  induction es with
  | nil => exact .nil
  | cons e es ih =>
      rw [List.flatMap_cons]
      cases e with
      | socket call => exact .other (by simp) (by simp) ih
      | reply taker line =>
          by_cases htaker : taker = visitor
          · subst htaker
            rw [CompanionEntry.replied, if_pos rfl]
            exact .reply line ih
          · rw [CompanionEntry.replied, if_neg htaker]
            exact .other (fun _ h => htaker (CompanionEntry.reply.inj h).1) (by simp) ih
      | report notice =>
          cases notice with
          | replyFailed reason => exact @Conveyed.part _ _ reason [] List.not_mem_nil _ _ ih
          | _ => exact .other (by simp) (by simp) ih

/-- The line feeds that have been carried are those of replies that were sent.  Where there is one for every
request, the replies have been carried whole, in order, and nothing else has. -/
theorem Answered.framed_of_conveyed {visitor : Nat} {ms : List Message} {es : List (CompanionEntry τ)}
    {bytes : List UInt8} (h : Answered visitor ms es) (hbytes : Conveyed visitor es bytes) :
    bytes.count 10 ≤ ms.length ∧
      (ms.length ≤ bytes.count 10 → ∃ answers : List Message,
        bytes = framed (answers.map Message.body) ∧
        List.Forall₂ (fun m answer => m.reply = .ok answer) ms answers) := by
  induction h generalizing bytes with
  | nil =>
      cases hbytes
      exact ⟨Nat.le_refl 0, fun _ => ⟨[], rfl, .nil⟩⟩
  | quiet he _ ih =>
      cases hbytes with
      | reply line h => exact he.elim
      | part reason hpiece h => exact he.elim
      | other _ _ h => exact ih h
  | @sent m answer line ms es hreply hline _ ih =>
      have hlineFeeds : (asciiBytes line).count 10 = 1 := by
        rw [hline, List.count_append, List.count_eq_zero.mpr answer.not_mem_body]
        rfl
      cases hbytes with
      | other _ _ h =>
          cases h with
          | other hother _ _ => exact absurd rfl (hother line)
          | @reply _ _ bytes h =>
              obtain ⟨hle, hall⟩ := ih h
              rw [List.count_append, hlineFeeds, List.length_cons]
              refine ⟨by omega, ?_⟩
              intro hmany
              obtain ⟨answers, rfl, hanswers⟩ := hall (by omega)
              exact ⟨answer :: answers, by rw [hline]; rfl, .cons hreply hanswers⟩
  | @failed m reason ms es _ ih =>
      cases hbytes with
      | other _ _ h =>
          cases h with
          | other _ hother _ => exact absurd rfl (hother reason)
          | @part _ piece hpiece _ bytes h =>
              obtain ⟨hle, -⟩ := ih h
              have hnone : piece.count 10 = 0 := List.count_eq_zero.mpr hpiece
              rw [List.count_append, hnone, List.length_cons]
              exact ⟨by omega, fun hmany => by omega⟩
  | @cut m front reason ms es hfront _ ih =>
      have hstart : (asciiBytes front).count 10 = 0 := List.count_eq_zero.mpr hfront
      cases hbytes with
      | other _ _ h =>
          cases h with
          | other hother _ _ => exact absurd rfl (hother front)
          | @reply _ _ bytes h =>
              cases h with
              | other _ hother _ => exact absurd rfl (hother reason)
              | @part _ piece hpiece _ bytes h =>
                  obtain ⟨hle, -⟩ := ih h
                  have hnone : piece.count 10 = 0 := List.count_eq_zero.mpr hpiece
                  rw [List.count_append, List.count_append, hstart, hnone, List.length_cons]
                  exact ⟨by omega, fun hmany => by omega⟩

/-- A piece of a message's line that lacks its last character has no line feed. -/
theorem not_mem_of_prefix_dropLast {answer : Message} {line piece : List Char}
    (hline : asciiBytes line = answer.body ++ lineEnd) (hpiece : piece <+: line.dropLast) :
    10 ∉ asciiBytes piece := by
  have hopen : asciiBytes line.dropLast = answer.body ++ [13] := by
    rw [asciiBytes, List.map_dropLast, ← asciiBytes, hline, lineEnd, List.dropLast_append_cons]
    rfl
  have hfront : asciiBytes piece <+: answer.body ++ [13] := by
    rw [← hopen]
    exact hpiece.map _
  intro hmem
  simpa [answer.not_mem_body] using hfront.subset hmem

namespace Companion

variable {c c' : Companion τ} {out out' : Outbox}

/-- What handling lines leaves of a companion and its outbox. -/
structure Frame (c : Companion τ) (out : Outbox) (c' : Companion τ) (out' : Outbox) : Prop where
  running : c'.running = c.running
  replies : c'.replies = c.replies
  codec : c'.codec = c.codec
  visitor : out'.visitor = out.visitor

theorem Frame.trans {c'' : Companion τ} {out'' : Outbox} (h : c.Frame out c' out')
    (h' : c'.Frame out' c'' out'') : c.Frame out c'' out'' where
  running := h'.running.trans h.running
  replies := h'.replies.trans h.replies
  codec := h'.codec.trans h.codec
  visitor := h'.visitor.trans h.visitor

theorem visitor_next (out : Outbox) : out.next.2.visitor = out.visitor := by
  unfold Outbox.next
  split
  · rfl
  · split <;> rfl

/-- A reply is sent, or the companion reports that it could not be, with a piece of its line gone out or
nothing. -/
theorem send_cases (c : Companion τ) (out : Outbox) (line : List Char) :
    (c.send out line).2.visitor = out.visitor ∧
      ((c.send out line).1 = c.posted out.visitor line ∨
        (∃ reason, (c.send out line).1 = c.report (.replyFailed reason)) ∨
        ∃ piece reason, piece <+: line.dropLast ∧
          (c.send out line).1 = (c.posted out.visitor piece).report (.replyFailed reason)) := by
  have hvisitor := visitor_next out
  unfold send
  cases hnext : out.next with
  | mk delivery out' =>
      rw [hnext] at hvisitor
      rw [← hvisitor]
      cases delivery with
      | whole => exact ⟨rfl, .inl rfl⟩
      | cut sent reason =>
          refine ⟨rfl, .inr ?_⟩
          dsimp only
          split
          · exact .inl ⟨reason, rfl⟩
          · exact .inr ⟨_, reason, List.take_prefix sent line.dropLast, rfl⟩

theorem frame_send (c : Companion τ) (out : Outbox) (line : List Char) :
    c.Frame out (c.send out line).1 (c.send out line).2 := by
  obtain ⟨hvisitor, hsent | ⟨reason, hfailed⟩ | ⟨piece, reason, -, hcut⟩⟩ := c.send_cases out line
  · rw [hsent]
    exact ⟨rfl, rfl, rfl, hvisitor⟩
  · rw [hfailed]
    exact ⟨rfl, rfl, rfl, hvisitor⟩
  · rw [hcut]
    exact ⟨rfl, rfl, rfl, hvisitor⟩

theorem frame_handle {line : List UInt8} {result : Except Fault Unit}
    (h : c.handle out line = (result, c', out')) : c.Frame out c' out' := by
  unfold handle at h
  split at h
  · cases h
    exact ⟨rfl, rfl, rfl, rfl⟩
  · cases h
    exact ⟨rfl, rfl, rfl, rfl⟩
  · rename_i m _
    dsimp only at h
    split at h
    · rename_i line _ _
      obtain ⟨hrunning, hreplies, hcodec, hvisitor⟩ :=
        frame_send ({ c with handled := c.handled + 1 }.report (.request m)) out line
      obtain ⟨-, h⟩ := Prod.mk.inj h
      rw [h] at hrunning hreplies hcodec hvisitor
      exact ⟨hrunning, hreplies, hcodec, hvisitor⟩
    · cases h
      exact ⟨rfl, rfl, rfl, rfl⟩

theorem frame_handleAll {lines : List (List UInt8)} {result : Except Fault Unit}
    (h : c.handleAll out lines = (result, c', out')) : c.Frame out c' out' := by
  induction lines generalizing c out with
  | nil =>
      cases h
      exact ⟨rfl, rfl, rfl, rfl⟩
  | cons line rest ih =>
      rw [handleAll] at h
      split at h
      · rename_i hline
        exact (frame_handle hline).trans (ih h)
      · exact frame_handle h

/-- Handling lines is handling the first of them and then the others. -/
theorem handleAll_append (lines more : List (List UInt8)) :
    c.handleAll out (lines ++ more) =
      match c.handleAll out lines with
      | (.ok (), c, out) => c.handleAll out more
      | failed => failed := by
  induction lines generalizing c out with
  | nil => rfl
  | cons line rest ih =>
      rw [List.cons_append, handleAll, handleAll]
      split
      · exact ih
      · rename_i hfailed
        split
        · rename_i c₁ out₁ hok
          exact absurd hok (hfailed c₁ out₁)
        · rfl

/-- What has been entered into the journal of a companion. -/
def since (c c' : Companion τ) : List (CompanionEntry τ) := c'.journal.toList.drop c.journal.size

/-- The companion has handled messages, each of which it has read as an equal one, and has entered what
became of them and nothing else. -/
structure Handled (visitor : Nat) (ms : List Message) (c c' : Companion τ) : Prop where
  count : c'.handled = c.handled + ms.length
  adds : c'.journal.toList = c.journal.toList ++ c.since c'
  read : ∃ read, Answered visitor read (c.since c') ∧ List.Forall₂ (fun m' m => m'.same m = true) read ms

namespace Handled

variable {visitor : Nat} {ms ms' read : List Message} {es : List (CompanionEntry τ)}

theorem of_adds (hcount : c'.handled = c.handled + ms.length)
    (hadds : c'.journal.toList = c.journal.toList ++ es) (hanswered : Answered visitor read es)
    (hread : List.Forall₂ (fun m' m => m'.same m = true) read ms) : Handled visitor ms c c' := by
  have hsince : c.since c' = es := by
    rw [since, hadds, ← Array.length_toList, List.drop_left]
  exact ⟨hcount, hsince.symm ▸ hadds, read, hsince.symm ▸ hanswered, hread⟩

/-- Entries that are no part of handling a message. -/
theorem quiet (hcount : c'.handled = c.handled) (hadds : c'.journal.toList = c.journal.toList ++ es)
    (hquiet : ∀ e ∈ es, e.IsQuiet) : Handled visitor [] c c' := by
  have hanswered : Answered visitor [] es := by
    clear hadds
    induction es with
    | nil => exact .nil
    | cons e es ih =>
        exact .quiet (hquiet e List.mem_cons_self) (ih fun e he => hquiet e (List.mem_cons_of_mem _ he))
  exact of_adds hcount hadds hanswered .nil

theorem trans {c'' : Companion τ} (h : Handled visitor ms c c') (h' : Handled visitor ms' c' c'') :
    Handled visitor (ms ++ ms') c c'' := by
  obtain ⟨hcount, hadds, read, hanswered, hread⟩ := h
  obtain ⟨hcount', hadds', read', hanswered', hread'⟩ := h'
  refine of_adds ?_ ?_ (hanswered.append hanswered') (@List.rel_append _ _ _ _ _ hread _ _ hread')
  · rw [hcount', hcount, List.length_append, Nat.add_assoc]
  · rw [hadds', hadds, List.append_assoc]

end Handled

section
variable {m : Message} (hreplies : c.replies = true)
  (hlimit : c.codec.lineLimit.value = defaultLineLimit)
include hreplies hlimit

/-- The line of a message is handled as that message, and answered unless sending fails. -/
theorem handle_body (out : Outbox) (hfits : m.HeaderFits) :
    ∃ c' out', c.handle out m.body = (.ok (), c', out') ∧ Handled out.visitor [m] c c' := by
  obtain ⟨m', hdecode, hsame⟩ := Codec.decode_body hfits hlimit
  obtain ⟨answer, hreply, hanswers⟩ := Message.reply_of_headerFits (hfits.of_same hsame)
  obtain ⟨line, hline, hbytes⟩ := Message.line_of_headerFits (hanswers.headerFits (hfits.of_same hsame))
  have hhandle : c.handle out m.body =
      (.ok (), ({ c with handled := c.handled + 1 }.report (.request m')).send out line) := by
    simp only [handle, hdecode, report, hreplies, hreply, hline, Except.toOption, Option.bind_some]
  obtain ⟨-, hcases⟩ := send_cases ({ c with handled := c.handled + 1 }.report (.request m')) out line
  generalize ({ c with handled := c.handled + 1 }.report (.request m')).send out line = sent at hhandle hcases
  refine ⟨sent.1, sent.2, hhandle, ?_⟩
  rcases hcases with hsent | ⟨reason, hfailed⟩ | ⟨piece, reason, hpiece, hcut⟩
  · rw [hsent]
    exact .of_adds rfl (by simp [report, posted]) (.sent hreply hbytes .nil) (.cons hsame .nil)
  · rw [hfailed]
    have hnothing := @Answered.failed τ out.visitor m' reason [] [] .nil
    exact .of_adds rfl (by simp [report]) hnothing (.cons hsame .nil)
  · rw [hcut]
    have hopen : 10 ∉ asciiBytes piece := not_mem_of_prefix_dropLast hbytes hpiece
    have hpart := @Answered.cut τ out.visitor m' piece reason [] [] hopen .nil
    exact .of_adds rfl (by simp [report, posted]) hpart (.cons hsame .nil)

theorem handleAll_bodies (out : Outbox) {ms : List Message} (hfits : ∀ m ∈ ms, m.HeaderFits) :
    ∃ c' out', c.handleAll out (ms.map Message.body) = (.ok (), c', out') ∧
      Handled out.visitor ms c c' := by
  induction ms generalizing c out with
  | nil =>
      have hnone : c.journal.toList = c.journal.toList ++ [] := (List.append_nil _).symm
      exact ⟨c, out, rfl, .quiet rfl hnone nofun⟩
  | cons m ms ih =>
      obtain ⟨c₁, out₁, hfirst, hhandled⟩ := handle_body hreplies hlimit out (hfits m List.mem_cons_self)
      obtain ⟨-, hreplies₁, hcodec, hvisitor⟩ := frame_handle hfirst
      obtain ⟨c', out', hrest, hhandled'⟩ := ih (hreplies₁.trans hreplies) (hcodec ▸ hlimit) out₁
        (fun m hm => hfits m (List.mem_cons_of_mem _ hm))
      refine ⟨c', out', ?_, ?_⟩
      · rw [List.map_cons, handleAll, hfirst]
        exact hrest
      · exact hhandled.trans (hvisitor ▸ hhandled')

end

end Companion

def Chunk.bytes : Chunk → List UInt8
  | data bytes => bytes
  | stop (some bytes) => bytes
  | _ => []

/-- What a look at an open link brings: bytes, as many as can be taken at once, or none in time. -/
def Chunk.IsPiece : Chunk → Prop
  | data bytes => bytes ≠ [] ∧ bytes.length ≤ pieceSize
  | timeout => True
  | _ => False

namespace Companion

variable {c c' : Companion τ} {out out' : Outbox}

/-- Serving a link is handling the lines of all that it has sent, however the bytes come in, as long as no
unfinished line is too long. -/
theorem serve_eq {chunks : List Chunk} {buffer : List UInt8} (hpieces : ∀ chunk ∈ chunks, chunk.IsPiece)
    (hrunning : c.running = true) (hbuffer : segments buffer = ([], buffer))
    (hshort : ∀ part, part <+: chunks.flatMap Chunk.bytes →
      ((segments (buffer ++ part)).2.length : Int) ≤ c.codec.lineLimit.value)
    (hhandle : c.handleAll out (segments (buffer ++ chunks.flatMap Chunk.bytes)).1 =
      (.ok (), c', out')) :
    c.serve out buffer chunks = (.ok (), c'.finish out.visitor) := by
  induction chunks generalizing c out buffer with
  | nil =>
      rw [List.flatMap_nil, List.append_nil, hbuffer] at hhandle
      cases hhandle
      rfl
  | cons chunk rest ih =>
      have hrest : ∀ chunk ∈ rest, chunk.IsPiece := fun chunk h => hpieces chunk (List.mem_cons_of_mem _ h)
      have hpiece := hpieces chunk List.mem_cons_self
      cases chunk with
      | failure => exact hpiece.elim
      | stop bytes => exact hpiece.elim
      | timeout =>
          simp only [serve, hrunning, Bool.not_true, Bool.false_eq_true, ↓reduceIte]
          exact ih hrest hrunning hbuffer hshort hhandle
      | data bytes =>
          -- what is handled of the whole is what this piece completes, and then what the others do
          have hwhole : ∀ part, segments (buffer ++ (bytes ++ part)) =
              ((segments (buffer ++ bytes)).1 ++ (segments ((segments (buffer ++ bytes)).2 ++ part)).1,
                (segments ((segments (buffer ++ bytes)).2 ++ part)).2) := by
            intro part
            rw [← List.append_assoc, segments_append]
          rw [List.flatMap_cons, Chunk.bytes, hwhole, handleAll_append] at hhandle
          split at hhandle
          · rename_i c₁ out₁ hfirst
            obtain ⟨hrunning₁, -, hcodec, hvisitor⟩ := frame_handleAll hfirst
            have hroom := hshort bytes (List.prefix_append _ _)
            have hserve : c.serve out buffer (.data bytes :: rest) =
                c₁.serve out₁ (segments (buffer ++ bytes)).2 rest := by
              simp only [serve, hrunning, Bool.not_true, Bool.false_eq_true, ↓reduceIte,
                List.isEmpty_eq_false_iff.mpr hpiece.1, take, hfirst, hcodec, Int.not_lt.mpr hroom]
            rw [hserve, ← hvisitor]
            refine ih hrest (hrunning₁.trans hrunning) (segments_tail _) ?_ hhandle
            intro part hpart
            have hroom' := hshort (bytes ++ part) ((List.prefix_append_right_inj bytes).mpr hpart)
            rwa [hwhole, ← hcodec] at hroom'
          · rename_i hfailed
            exact absurd hhandle (hfailed c' out')

/-- A link that sends the lines of messages, of which the companion receives a front part: the messages
whose lines are complete have been handled when the link closes. -/
theorem serves {ms : List Message} {chunks : List Chunk} (hfits : ∀ m ∈ ms, m.HeaderFits)
    (hrunning : c.running = true) (hreplies : c.replies = true)
    (hlimit : c.codec.lineLimit.value = defaultLineLimit) (hpieces : ∀ chunk ∈ chunks, chunk.IsPiece)
    (hreceived : chunks.flatMap Chunk.bytes <+: framed (ms.map Message.body)) (out : Outbox) :
    ∃ c' handled, c.serve out [] chunks = (.ok (), c') ∧ handled <+: ms ∧
      Handled out.visitor handled c c' := by
  have hlines : ∀ line ∈ ms.map Message.body, 10 ∉ line := by
    simpa using fun m _ => m.not_mem_body
  have hshort : ∀ line ∈ ms.map Message.body, (line.length : Int) + 2 ≤ defaultLineLimit := by
    simpa using fun m hm => Message.length_body_le (hfits m hm)
  have hcomplete := segments_prefix hreceived
  rw [segments_framed hlines, List.prefix_map_iff] at hcomplete
  obtain ⟨handled, hhandled, hbodies⟩ := hcomplete
  obtain ⟨c', out', hhandle, hdone⟩ :=
    handleAll_bodies hreplies hlimit out fun m hm => hfits m (hhandled.subset hm)
  refine ⟨c'.finish out.visitor, handled, ?_, hhandled, ?_⟩
  · apply @serve_eq τ c c' out out' chunks [] hpieces hrunning rfl
    · intro part hpart
      rw [hlimit]
      exact length_tail_of_framed hlines hshort (by decide) (hpart.trans hreceived)
    · rw [List.nil_append, hbodies]
      exact hhandle
  · have hadds : (c'.finish out.visitor).journal.toList =
        c'.journal.toList ++ [.socket (.close out.visitor), .report .linkDisconnected] := by
      simp [finish, record, report]
    have hclosing : Handled out.visitor [] c' (c'.finish out.visitor) :=
      .quiet rfl hadds (by simp [CompanionEntry.IsQuiet])
    simpa using hdone.trans hclosing

end Companion

end PeripheralLink
