import Mathlib.Data.List.TakeWhile
import PeripheralLink.Proofs.Companion.Service
/-!
Where a link's bytes are cut.  The companion looks for lines in what it has kept and what has just come
in, and forgets a tail that is too long as a whole: it does not remember that a line is still open.  So a
line is only sure to be seen as such while it is shorter than the bound, and behind a forgotten tail a new
stream begins in the middle of a line.  The main statement is `Companion.serve_deal`.
-/

namespace PeripheralLink

/-- What comes behind an unfinished tail ends no segment, or ends one that has the tail at its front. -/
theorem segments_tail_append {tail : List UInt8} (htail : segments tail = ([], tail))
    (more : List UInt8) :
    segments (tail ++ more) = ([], tail ++ more) ∨
      ∃ line rest, (segments (tail ++ more)).1 = line :: rest ∧ tail.length ≤ line.length + 1 := by
  induction more using List.reverseRecOn with
  | nil => exact .inl (by rw [List.append_nil, htail])
  | append_singleton more b ih =>
      rw [← List.append_assoc, segments_concat]
      rcases ih with hopen | ⟨line, rest, hlines, hlength⟩
      · rw [hopen]
        split
        · refine .inr ⟨_, [], rfl, ?_⟩
          rw [List.length_dropLast, List.length_append]
          omega
        · exact .inl rfl
      · refine .inr ?_
        split
        · exact ⟨line, _, by rw [hlines]; rfl, hlength⟩
        · exact ⟨line, rest, hlines, hlength⟩

/-- The back of an unfinished tail is unfinished. -/
theorem segments_back {front back : List UInt8}
    (h : segments (front ++ back) = ([], front ++ back)) : segments back = ([], back) := by
  induction back using List.reverseRecOn with
  | nil => rfl
  | append_singleton back b ih =>
      rw [← List.append_assoc, segments_concat] at h
      split at h
      · exact absurd (congrArg Prod.fst h) (by simp)
      · rename_i hopen
        have hfront : segments (front ++ back) = ([], front ++ back) := by
          obtain ⟨hlines, htail⟩ := Prod.mk.inj h
          exact Prod.ext hlines (List.append_cancel_right htail)
        rw [segments_concat, ih hfront]
        refine if_neg fun hclose => hopen ⟨hclose.1, ?_⟩
        rw [hfront, List.getLast?_append, hclose.2]
        rfl

namespace Companion

/-- What is kept of bytes behind a buffer: the unfinished tail, and nothing of it if it is too long. -/
def kept (limit : Int) (buffer bytes : List UInt8) : List UInt8 :=
  if limit < (segments (buffer ++ bytes)).2.length then [] else (segments (buffer ++ bytes)).2

/-- The lines that are handed on as chunks come in, and what is kept in the end. -/
def deal (limit : Int) (buffer : List UInt8) : List Chunk → List (List UInt8) × List UInt8
  | [] => ([], buffer)
  | chunk :: rest =>
    let (more, left) := deal limit (kept limit buffer chunk.bytes) rest
    ((segments (buffer ++ chunk.bytes)).1 ++ more, left)

/-- A buffer as it is kept: an unfinished line that is not too long. -/
structure Open (limit : Int) (buffer : List UInt8) : Prop where
  unfinished : segments buffer = ([], buffer)
  room : buffer = [] ∨ (buffer.length : Int) ≤ limit

variable {limit : Int} {buffer : List UInt8} {chunks : List Chunk}

theorem Open.nil (limit : Int) : Open limit [] := ⟨rfl, .inl rfl⟩

theorem Open.kept (limit : Int) (buffer bytes : List UInt8) : Open limit (kept limit buffer bytes) := by
  unfold Companion.kept
  split
  · exact .nil limit
  · rename_i hshort
    exact ⟨segments_tail _, .inr (Int.not_lt.mp hshort)⟩

theorem deal_cons (chunk : Chunk) (rest : List Chunk) :
    deal limit buffer (chunk :: rest) =
      ((segments (buffer ++ chunk.bytes)).1 ++ (deal limit (kept limit buffer chunk.bytes) rest).1,
        (deal limit (kept limit buffer chunk.bytes) rest).2) := rfl

/-- Waiting in vain changes nothing. -/
theorem Open.deal_timeout (h : Open limit buffer) (rest : List Chunk) :
    deal limit buffer (.timeout :: rest) = deal limit buffer rest := by
  have hkept : Companion.kept limit buffer [] = buffer := by
    rw [Companion.kept, List.append_nil, h.unfinished]
    rcases h.room with rfl | hroom
    · exact ite_self _
    · exact if_neg (Int.not_lt.mpr hroom)
  have hbytes : Chunk.timeout.bytes = [] := rfl
  rw [deal_cons, hbytes, hkept, List.append_nil, h.unfinished]
  rfl

theorem deal_append (chunks more : List Chunk) :
    deal limit buffer (chunks ++ more) =
      ((deal limit buffer chunks).1 ++ (deal limit (deal limit buffer chunks).2 more).1,
        (deal limit (deal limit buffer chunks).2 more).2) := by
  induction chunks generalizing buffer with
  | nil => rfl
  | cons chunk rest ih => rw [List.cons_append, deal_cons, ih, deal_cons, List.append_assoc]

/-- Behind a tail that has grown too long a new stream begins. -/
theorem deal_of_tooLong {chunk : Chunk} (more : List Chunk)
    (hlong : limit < (segments ((deal limit buffer chunks).2 ++ chunk.bytes)).2.length) :
    (deal limit buffer (chunks ++ chunk :: more)).1 =
      (deal limit buffer (chunks ++ [chunk])).1 ++ (deal limit [] more).1 := by
  have hkept : kept limit (deal limit buffer chunks).2 chunk.bytes = [] := if_pos hlong
  rw [deal_append, deal_append, deal_cons, deal_cons, hkept, List.append_assoc, List.append_assoc]
  rfl

/-- An unfinished line gives no line, wherever it is cut. -/
theorem deal_of_unfinished
    (h : segments (buffer ++ chunks.flatMap Chunk.bytes) = ([], buffer ++ chunks.flatMap Chunk.bytes)) :
    (deal limit buffer chunks).1 = [] := by
  induction chunks generalizing buffer with
  | nil => rfl
  | cons chunk rest ih =>
      rw [List.flatMap_cons, ← List.append_assoc] at h
      have hfront : segments (buffer ++ chunk.bytes) = ([], buffer ++ chunk.bytes) := by
        have hlines := congrArg Prod.fst h
        rw [segments_append] at hlines
        have hnone := (List.append_eq_nil_iff.mp hlines).1
        have hjoin := framed_segments (buffer ++ chunk.bytes)
        rw [hnone] at hjoin
        exact Prod.ext hnone hjoin
      rw [deal_cons, kept, hfront, List.nil_append]
      apply ih
      split
      · exact segments_back h
      · exact h

/-- While every line is shorter than the bound, the lines that are handed on are the segments, wherever
the stream is cut. -/
theorem deal_of_short (hbuffer : segments buffer = ([], buffer))
    (hshort : ∀ line ∈ (segments (buffer ++ chunks.flatMap Chunk.bytes)).1, (line.length : Int) < limit) :
    (deal limit buffer chunks).1 = (segments (buffer ++ chunks.flatMap Chunk.bytes)).1 := by
  induction chunks generalizing buffer with
  | nil => simp [deal, hbuffer]
  | cons chunk rest ih =>
      rw [List.flatMap_cons, ← List.append_assoc, segments_append] at hshort ⊢
      have htail := segments_tail (buffer ++ chunk.bytes)
      rw [deal_cons, kept]
      dsimp only
      refine congrArg _ ?_
      have hrest : ∀ line ∈ (segments ((segments (buffer ++ chunk.bytes)).2 ++
          rest.flatMap Chunk.bytes)).1, (line.length : Int) < limit :=
        fun line hline => hshort line (List.mem_append_right _ hline)
      split
      · -- a tail that is too long belongs to no line that is short, so it is never finished
        rename_i hlong
        rcases segments_tail_append htail (rest.flatMap Chunk.bytes) with hopen | ⟨line, more, hlines, hlength⟩
        · rw [hopen]
          exact deal_of_unfinished (segments_back hopen)
        · have hline := hrest line (hlines ▸ List.mem_cons_self)
          omega
      · exact ih htail hrest

/-- Bytes that come in one at a time. -/
def single (bytes : List UInt8) : List Chunk := bytes.map fun b => .data [b]

theorem bytes_single (bytes : List UInt8) : (single bytes).flatMap Chunk.bytes = bytes := by
  simp [single, List.flatMap_map, Chunk.bytes]

/-- Of bytes that come in one at a time, no line that reaches the bound is handed on. -/
theorem Open.length_of_mem_deal_single (h : Open limit buffer) {bytes line : List UInt8}
    (hline : line ∈ (deal limit buffer (single bytes)).1) : (line.length : Int) < limit := by
  induction bytes generalizing buffer with
  | nil => exact absurd hline (by simp [single, deal])
  | cons b bytes ih =>
      have hcons : single (b :: bytes) = .data [b] :: single bytes := rfl
      rw [hcons, deal_cons, Chunk.bytes, List.mem_append] at hline
      rcases hline with hline | hline
      · rw [segments_concat, h.unfinished] at hline
        split at hline
        · rename_i hclose
          have hne : buffer ≠ [] := by
            rintro rfl
            exact absurd hclose.2 (by simp)
          have hpos := List.length_pos_iff.mpr hne
          have hfits := h.room.resolve_left hne
          rw [List.nil_append, List.mem_singleton] at hline
          have hlength : line.length = buffer.length - 1 := by rw [hline, List.length_dropLast]
          omega
        · exact absurd hline (by simp)
      · exact ih (.kept limit buffer [b]) hline

/-- The lines of a stream are its segments however it is cut exactly when each of them is shorter than the
bound. -/
theorem deal_eq_segments_iff (stream : List UInt8) :
    (∀ chunks : List Chunk, (∀ chunk ∈ chunks, chunk.IsPiece) → chunks.flatMap Chunk.bytes = stream →
        (deal limit [] chunks).1 = (segments stream).1) ↔
      ∀ line ∈ (segments stream).1, (line.length : Int) < limit := by
  constructor
  · intro hall line hline
    have hpieces : ∀ chunk ∈ single stream, chunk.IsPiece := by
      simp [single, Chunk.IsPiece, pieceSize]
    rw [← hall (single stream) hpieces (bytes_single stream)] at hline
    exact (Open.nil limit).length_of_mem_deal_single hline
  · rintro hshort chunks - rfl
    exact deal_of_short rfl hshort

end Companion

/-- A line that is read, or dropped for a reason that can be reported. -/
def Decoded.isWordable : Decoded → Bool
  | failed _ => false
  | _ => true

def Decoded.isMessage : Decoded → Bool
  | message _ => true
  | _ => false

/-- What lines are read as, up to the first whose fault cannot be worded. -/
def Codec.readAll (codec : Codec) (lines : List (List UInt8)) : List Decoded :=
  (lines.map fun line => codec.decode (.bytes line)).takeWhile Decoded.isWordable

theorem Codec.readAll_append_of_wordable {codec : Codec} {lines : List (List UInt8)}
    (hwordable : ∀ line ∈ lines, (codec.decode (.bytes line)).isWordable = true)
    (more : List (List UInt8)) :
    codec.readAll (lines ++ more) = codec.readAll lines ++ codec.readAll more := by
  have hall : ∀ d ∈ lines.map fun line => codec.decode (.bytes line), d.isWordable = true := by
    simpa using hwordable
  rw [readAll, readAll, readAll, List.map_append, List.takeWhile_append_of_pos hall,
    List.takeWhile_eq_self_iff.mpr hall]

theorem Codec.readAll_append_of_not_wordable {codec : Codec} {lines : List (List UInt8)}
    (hfailed : ¬ ∀ line ∈ lines, (codec.decode (.bytes line)).isWordable = true)
    (more : List (List UInt8)) : codec.readAll (lines ++ more) = codec.readAll lines := by
  rw [readAll, readAll, List.map_append, List.takeWhile_append, if_neg]
  intro hlength
  have hall := List.takeWhile_eq_self_iff.mp
    ((List.takeWhile_prefix Decoded.isWordable).eq_of_length hlength)
  exact hfailed (by simpa using hall)

/-- The line that an entry accounts for, as it was read. -/
def CompanionEntry.decoded? {τ : Type} : CompanionEntry τ → Option Decoded
  | report (.request m) => some (.message m)
  | report (.frameDropped reason) => some (.dropped reason)
  | _ => none

namespace Companion

variable {τ : Type} {c c' c'' : Companion τ} {out : Outbox} {read read' : List Decoded}

/-- The lines that a companion has accounted for. -/
def decoded (c : Companion τ) : List Decoded := c.journal.toList.filterMap CompanionEntry.decoded?

/-- Lines have been handled, and they were read as this. -/
structure Read (c : Companion τ) (read : List Decoded) (c' : Companion τ) : Prop where
  running : c'.running = c.running
  codec : c'.codec = c.codec
  handled : c'.handled = c.handled + read.countP Decoded.isMessage
  decoded : c'.decoded = c.decoded ++ read

theorem decoded_push {e : CompanionEntry τ} (h : c'.journal = c.journal.push e) :
    c'.decoded = c.decoded ++ e.decoded?.toList := by
  rw [decoded, h, Array.toList_push, List.filterMap_append]
  cases hdecoded : e.decoded? <;> simp [hdecoded, decoded]

theorem decoded_report (c : Companion τ) (notice : CompanionNotice) :
    (c.report notice).decoded =
      c.decoded ++ (CompanionEntry.report notice : CompanionEntry τ).decoded?.toList :=
  decoded_push rfl

namespace Read

theorem refl (c : Companion τ) : c.Read [] c := ⟨rfl, rfl, rfl, (List.append_nil _).symm⟩

theorem trans (h : c.Read read c') (h' : c'.Read read' c'') : c.Read (read ++ read') c'' where
  running := h'.running.trans h.running
  codec := h'.codec.trans h.codec
  handled := by rw [h'.handled, h.handled, List.countP_append, Nat.add_assoc]
  decoded := by rw [h'.decoded, h.decoded, List.append_assoc]

/-- Leaving the companion as it is but for an entry that is about no line. -/
theorem push {e : CompanionEntry τ} (h : c.Read read c') (hother : e.decoded? = none)
    (hrunning : c''.running = c'.running) (hcodec : c''.codec = c'.codec)
    (hhandled : c''.handled = c'.handled) (hjournal : c''.journal = c'.journal.push e) :
    c.Read read c'' where
  running := hrunning.trans h.running
  codec := hcodec.trans h.codec
  handled := hhandled.trans h.handled
  decoded := by rw [decoded_push hjournal, hother, Option.toList_none, List.append_nil, h.decoded]

theorem finish (h : c.Read read c') (visitor : Nat) : c.Read read (c'.finish visitor) := by
  let closing := { c' with visitors := c'.visitors.erase visitor }.record (.close visitor)
  have hclosing : c.Read read closing := h.push rfl rfl rfl rfl rfl
  exact hclosing.push rfl rfl rfl rfl rfl

theorem send (h : c.Read read c') (out : Outbox) (line : List Char) :
    c.Read read (c'.send out line).1 := by
  obtain ⟨-, hsent | ⟨reason, hfailed⟩ | ⟨piece, reason, -, hcut⟩⟩ := c'.send_cases out line
  · rw [hsent]
    exact h.push rfl rfl rfl rfl rfl
  · rw [hfailed]
    exact h.push rfl rfl rfl rfl rfl
  · have hposted : c.Read read (c'.posted out.visitor piece) := h.push rfl rfl rfl rfl rfl
    rw [hcut]
    exact hposted.push rfl rfl rfl rfl rfl

end Read

/-- A line is accounted for as what it is read as, unless its fault cannot be worded. -/
theorem handle_cases (c : Companion τ) (out : Outbox) (line : List UInt8) :
    (∃ c' out', c.handle out line = (.ok (), c', out') ∧
        (c.codec.decode (.bytes line)).isWordable = true ∧
        c.Read [c.codec.decode (.bytes line)] c') ∨
      ∃ reason, c.handle out line = (.error (.line reason), c, out) ∧
        (c.codec.decode (.bytes line)).isWordable = false := by
  cases hdecode : c.codec.decode (.bytes line) with
  | failed reason => exact .inr ⟨reason, by simp only [handle, hdecode], rfl⟩
  | dropped reason =>
      refine .inl ⟨c.report (.frameDropped reason), out, by simp only [handle, hdecode], rfl, rfl, rfl, rfl, ?_⟩
      exact c.decoded_report _
  | message m =>
      have hread : c.Read [.message m] ({ c with handled := c.handled + 1 }.report (.request m)) :=
        ⟨rfl, rfl, rfl, decoded_report _ _⟩
      cases hhandle : c.handle out line with
      | mk result rest =>
          simp only [handle, hdecode] at hhandle
          split at hhandle
          · cases hhandle
            exact .inl ⟨_, _, rfl, rfl, hread.send out _⟩
          · cases hhandle
            exact .inl ⟨_, _, rfl, rfl, hread⟩

/-- Lines are accounted for in order. -/
theorem read_handleAll (c : Companion τ) (out : Outbox) (lines : List (List UInt8)) :
    c.Read (c.codec.readAll lines) (c.handleAll out lines).2.1 ∧
      ((c.handleAll out lines).1 = .ok () ↔
        ∀ line ∈ lines, (c.codec.decode (.bytes line)).isWordable = true) := by
  induction lines generalizing c out with
  | nil => exact ⟨.refl c, by simp [handleAll]⟩
  | cons line rest ih =>
      rcases c.handle_cases out line with ⟨c₁, out₁, hhandle, hwordable, hread⟩ | ⟨reason, hhandle, hfailed⟩
      · obtain ⟨hrest, hok⟩ := ih c₁ out₁
        rw [hread.codec] at hrest hok
        rw [handleAll, hhandle]
        refine ⟨?_, by rw [List.forall_mem_cons]; exact hok.trans (by simp [hwordable])⟩
        have hall := hread.trans hrest
        rwa [List.singleton_append, Codec.readAll, ← List.takeWhile_cons_of_pos hwordable] at hall
      · rw [handleAll, hhandle]
        refine ⟨?_, by simp [hfailed]⟩
        rw [Codec.readAll, List.map_cons, List.takeWhile_cons_of_neg (by simp [hfailed])]
        exact .refl c

/-- Bytes that come in have their lines accounted for, and what is then kept is what is dealt with next. -/
theorem take_cases (c : Companion τ) (out : Outbox) (buffer bytes : List UInt8) :
    ∃ result c' out' left, c.take out buffer bytes = (result, c', out', left) ∧
      c.Read (c.codec.readAll (segments (buffer ++ bytes)).1) c' ∧
      (result = .ok () ∧ left = kept c.codec.lineLimit.value buffer bytes ∧
          (∀ line ∈ (segments (buffer ++ bytes)).1, (c.codec.decode (.bytes line)).isWordable = true) ∨
        (∃ fault, result = .error fault) ∧
          ¬ ∀ line ∈ (segments (buffer ++ bytes)).1, (c.codec.decode (.bytes line)).isWordable = true) := by
  obtain ⟨hread, hok⟩ := c.read_handleAll out (segments (buffer ++ bytes)).1
  rcases hhandle : c.handleAll out (segments (buffer ++ bytes)).1 with ⟨_ | ⟨⟨⟩⟩, c₁, out₁⟩
  · rw [hhandle] at hread hok
    refine ⟨_, c₁, out₁, _, by simp only [take, hhandle]; rfl, hread, .inr ⟨⟨_, rfl⟩, fun hall => ?_⟩⟩
    cases hok.mpr hall
  · rw [hhandle] at hread hok
    by_cases hlong : c.codec.lineLimit.value < (segments (buffer ++ bytes)).2.length
    · have hlong' : c₁.codec.lineLimit.value < (segments (buffer ++ bytes)).2.length := hread.codec ▸ hlong
      refine ⟨.ok (), c₁.report .lineDropped, out₁, [], by simp only [take, hhandle, if_pos hlong'],
        hread.push rfl rfl rfl rfl rfl, .inl ⟨rfl, (if_pos hlong).symm, hok.mp rfl⟩⟩
    · have hshort : ¬ c₁.codec.lineLimit.value < (segments (buffer ++ bytes)).2.length := hread.codec ▸ hlong
      exact ⟨.ok (), c₁, out₁, _, by simp only [take, hhandle, if_neg hshort], hread,
        .inl ⟨rfl, (if_neg hlong).symm, hok.mp rfl⟩⟩

/-- Serving a link accounts for the lines that it is dealt, up to the first whose fault cannot be worded. -/
theorem read_serve {chunks : List Chunk} {buffer : List UInt8} (hrunning : c.running = true)
    (hpieces : ∀ chunk ∈ chunks, chunk.IsPiece) (hbuffer : Open c.codec.lineLimit.value buffer) :
    c.Read (c.codec.readAll (deal c.codec.lineLimit.value buffer chunks).1) (c.serve out buffer chunks).2 ∧
      ((c.serve out buffer chunks).1 = .ok () ↔
        ∀ line ∈ (deal c.codec.lineLimit.value buffer chunks).1,
          (c.codec.decode (.bytes line)).isWordable = true) := by
  induction chunks generalizing c out buffer with
  | nil => exact ⟨(Read.refl c).finish out.visitor, by simp [serve, deal]⟩
  | cons chunk rest ih =>
      have hrest : ∀ chunk ∈ rest, chunk.IsPiece := fun chunk h => hpieces chunk (List.mem_cons_of_mem _ h)
      have hpiece := hpieces chunk List.mem_cons_self
      cases chunk with
      | failure => exact hpiece.elim
      | stop bytes => exact hpiece.elim
      | timeout =>
          have hserve : c.serve out buffer (.timeout :: rest) = c.serve out buffer rest := by
            simp only [serve, hrunning, Bool.not_true, Bool.false_eq_true, ↓reduceIte]
          rw [hserve, hbuffer.deal_timeout]
          exact ih hrunning hrest hbuffer
      | data bytes =>
          obtain ⟨result, c₁, out₁, left, htake, hread, ⟨rfl, rfl, hwordable⟩ | ⟨⟨fault, rfl⟩, hfailed⟩⟩ :=
            c.take_cases out buffer bytes
          · have hserve : c.serve out buffer (.data bytes :: rest) =
                c₁.serve out₁ (kept c.codec.lineLimit.value buffer bytes) rest := by
              simp only [serve, hrunning, Bool.not_true, Bool.false_eq_true, ↓reduceIte,
                List.isEmpty_eq_false_iff.mpr hpiece.1, htake]
            have hkept : Open c₁.codec.lineLimit.value (kept c.codec.lineLimit.value buffer bytes) := by
              rw [hread.codec]
              exact .kept _ _ _
            obtain ⟨hmore, hok⟩ := @ih c₁ out₁ _ (hread.running.trans hrunning) hrest hkept
            rw [hread.codec] at hmore hok
            rw [hserve, deal_cons, Chunk.bytes, Codec.readAll_append_of_wordable hwordable,
              List.forall_mem_append]
            exact ⟨hread.trans hmore, hok.trans (iff_and_self.mpr fun _ => hwordable)⟩
          · have hserve : c.serve out buffer (.data bytes :: rest) = (.error fault, c₁) := by
              simp only [serve, hrunning, Bool.not_true, Bool.false_eq_true, ↓reduceIte,
                List.isEmpty_eq_false_iff.mpr hpiece.1, htake]
            rw [hserve, deal_cons, Chunk.bytes, Codec.readAll_append_of_not_wordable hfailed]
            refine ⟨hread, iff_of_false (by simp) fun hall => hfailed fun line hline => ?_⟩
            exact hall line (List.mem_append_left _ hline)

/-- A companion accounts for the lines that a link's bytes are dealt out as, in order and once each, up to
the first whose fault cannot be worded.  However a stream is cut, these are its segments exactly when each
segment is shorter than the bound; and where the tail that is kept grows too long, what comes next is
dealt with as a stream of its own, so that the rest of the line counts as a line. -/
theorem serve_deal (c : Companion τ) (out : Outbox) (hrunning : c.running = true) :
    (∀ chunks : List Chunk, (∀ chunk ∈ chunks, chunk.IsPiece) →
      let dealt := (deal c.codec.lineLimit.value [] chunks).1
      (c.serve out [] chunks).2.decoded = c.decoded ++ c.codec.readAll dealt ∧
        (c.serve out [] chunks).2.handled =
          c.handled + (c.codec.readAll dealt).countP Decoded.isMessage ∧
        ((c.serve out [] chunks).1 = .ok () ↔
          ∀ line ∈ dealt, (c.codec.decode (.bytes line)).isWordable = true)) ∧
    (∀ stream : List UInt8,
      (∀ chunks : List Chunk, (∀ chunk ∈ chunks, chunk.IsPiece) → chunks.flatMap Chunk.bytes = stream →
          (deal c.codec.lineLimit.value [] chunks).1 = (segments stream).1) ↔
        ∀ line ∈ (segments stream).1, (line.length : Int) < c.codec.lineLimit.value) ∧
    ∀ (chunks : List Chunk) (chunk : Chunk) (more : List Chunk),
      c.codec.lineLimit.value <
          (segments ((deal c.codec.lineLimit.value [] chunks).2 ++ chunk.bytes)).2.length →
        (deal c.codec.lineLimit.value [] (chunks ++ chunk :: more)).1 =
          (deal c.codec.lineLimit.value [] (chunks ++ [chunk])).1 ++
            (deal c.codec.lineLimit.value [] more).1 := by
  refine ⟨?_, deal_eq_segments_iff, fun chunks chunk more hlong => deal_of_tooLong more hlong⟩
  intro chunks hpieces
  obtain ⟨hread, hok⟩ := c.read_serve hrunning hpieces (.nil _)
  exact ⟨hread.decoded, hread.handled, hok⟩

/-- A line of 4108 bytes of which the first 4097 come in first.  The line is too long to be read, but its
last bytes are handled as a message. -/
theorem serve_deal_tail :
    let c : Companion Int := { target := .standard, running := true }
    let front := List.replicate 4096 (65 : UInt8)
    let tail := asciiBytes "07 01 02 00".toList
    let chunks : List Chunk := [.data front, .data [65], .data (tail ++ lineEnd)]
    (segments (chunks.flatMap Chunk.bytes)).1 = [front ++ [65] ++ tail] ∧
      (c.codec.readAll [front ++ [65] ++ tail]).countP Decoded.isMessage = 0 ∧
      (c.serve { visitor := 1, limit := none } [] chunks).2.handled = 1 := by
  intro c front tail chunks
  have hfront : (10 : UInt8) ∉ front ++ [65] := by
    rw [List.mem_append]
    rintro (hmem | hmem)
    · exact absurd (List.eq_of_mem_replicate hmem) (by decide)
    · exact absurd hmem (by decide)
  have hlength : front.length = 4096 := List.length_replicate
  clear_value front
  have hline : (10 : UInt8) ∉ front ++ [65] ++ tail := by
    rw [List.mem_append]
    rintro (hmem | hmem)
    · exact hfront hmem
    · exact absurd hmem (by decide)
  have hbytes : chunks.flatMap Chunk.bytes = front ++ [65] ++ tail ++ lineEnd ++ [] := by
    simp [chunks, Chunk.bytes]
  have hpieces : ∀ chunk ∈ chunks, chunk.IsPiece := by
    have hpiece : front ≠ [] ∧ front.length ≤ pieceSize :=
      ⟨List.length_pos_iff.mp (by omega), hlength.le⟩
    simp only [chunks, List.forall_mem_cons, Chunk.IsPiece, List.not_mem_nil, false_imp_iff,
      implies_true]
    exact ⟨hpiece, by decide, by decide, trivial⟩
  obtain ⟨hserve, -, hrestart⟩ := c.serve_deal { visitor := 1, limit := none } rfl
  refine ⟨by rw [hbytes, segments_line hline]; rfl, ?_, ?_⟩
  · have hlong : c.codec.decode (.bytes (front ++ [65] ++ tail)) = .dropped (.lineTooLong 4108 c.codec.lineLimit) := by
      have hcount : (Line.bytes (front ++ [65] ++ tail)).length = 4108 := by
        rw [Line.length, List.length_append, List.length_append, hlength]
        rfl
      rw [Codec.decode, Codec.parse, hcount]
      rfl
    rw [Codec.readAll, List.map_singleton, hlong]
    rfl
  · have hkept : (deal c.codec.lineLimit.value [] [.data front]).2 = front := by
      have hsegments : segments ([] ++ (Chunk.data front).bytes) = ([], front) :=
        segments_of_not_mem fun hmem => hfront (List.mem_append_left _ hmem)
      rw [deal_cons, kept, hsegments]
      exact if_neg (by simp [hlength, c, defaultLineLimit])
    have hdealt := hrestart [.data front] (.data [65]) [.data (tail ++ lineEnd)] (by
      rw [hkept, Chunk.bytes, segments_of_not_mem hfront, List.length_append, hlength]
      decide)
    have hnone : (deal c.codec.lineLimit.value [] ([.data front] ++ [.data [65]])).1 = [] := by
      apply deal_of_unfinished
      simpa [Chunk.bytes] using segments_of_not_mem hfront
    have htail : (deal c.codec.lineLimit.value [] [.data (tail ++ lineEnd)]).1 = [tail] := by
      decide
    rw [(hserve chunks hpieces).2.1]
    have hlines : (deal c.codec.lineLimit.value [] chunks).1 = [tail] := by
      rw [hnone, htail] at hdealt
      exact hdealt
    rw [hlines]
    decide

end Companion

end PeripheralLink
