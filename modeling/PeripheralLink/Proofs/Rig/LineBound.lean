import PeripheralLink.Proofs.Rig.Traffic
import PeripheralLink.Proofs.Wire.LineBound
import PeripheralLink.Wire.Lan
/-!
The bound of a line, from the sockets to the codec of a link.  Transports that are built with a bound give no line
that a codec with the same bound would refuse for its length, so a link that has one bound for both never drops a
line for that reason.  What its reader gives up is given up on the wire, where it is reported.

The main statement is `lineBound_agrees`.
-/

namespace PeripheralLink

/-- Every transport on the network has this bound, and holds less than it. -/
def Lan.Bounded {τ : Type} (limit : Whole) (lan : Lan τ) : Prop :=
  ∀ (id : Nat) (t : Tcp τ), lan.transports[id]? = some t → t.Bounded limit

/-- A line that is given, if one is, leaves room for its line end. -/
def LeavesRoom (limit : Whole) (answer : Option (List UInt8)) : Prop :=
  ∀ line, answer = some line → (line.length : Int) + 2 ≤ limit.value

theorem leavesRoom_none (limit : Whole) : LeavesRoom limit none := nofun

namespace Lan.Bounded

variable {τ : Type} {limit : Whole} {lan : Lan τ}

/-- Running a transport as the run leaves it, with what is known of the answer. -/
theorem via {α : Type} {default : α} {run : Tcp τ → Network τ → α × Tcp τ × Network τ} {Q : α → Prop}
    (h : lan.Bounded limit) (id : Nat) (hdefault : Q default)
    (hrun : ∀ t, t.Bounded limit → (run t lan.net).2.1.Bounded limit ∧ Q (run t lan.net).1) :
    (lan.via id default run).2.Bounded limit ∧ Q (lan.via id default run).1 := by
  unfold Lan.via
  split
  · exact ⟨h, hdefault⟩
  · rename_i t ht
    obtain ⟨hbounded, hanswer⟩ := hrun t (h id t ht)
    refine ⟨fun id' t' ht' => ?_, hanswer⟩
    by_cases hid : id' = id
    · subst hid
      rw [Array.getElem?_setIfInBounds_self_of_lt (Array.getElem?_eq_some_iff.mp ht).1] at ht'
      exact Option.some.inj ht' ▸ hbounded
    · rw [Array.getElem?_setIfInBounds_ne (Ne.symm hid)] at ht'
      exact h id' t' ht'

variable [Zero τ] [Add τ] [Sub τ] [LE τ] [DecidableLE τ]

theorem build (h : lan.Bounded limit) {limits : TransportLimits τ} (hlimit : limits.lineLimit = limit)
    (target : Target) : (Carrier.build lan limits target).2.Bounded limit := by
  intro id t ht
  simp only [Carrier.build, Lan.build, Array.getElem?_push] at ht
  split at ht
  · cases ht
    exact ⟨hlimit, .clear limit.value⟩
  · exact h id t ht

theorem connect (h : lan.Bounded limit) (id : Nat) : (Carrier.connect lan id).2.Bounded limit :=
  (h.via (Q := fun _ => True) id trivial fun _ ht => ⟨ht.connect _, trivial⟩).1

theorem disconnect (h : lan.Bounded limit) (id : Nat) : (Carrier.disconnect lan id).Bounded limit :=
  (h.via (Q := fun _ => True) id trivial fun _ ht => ⟨ht.disconnect _, trivial⟩).1

theorem probe (h : lan.Bounded limit) (id : Nat) : (Carrier.probe lan id).2.Bounded limit :=
  (h.via (Q := fun _ => True) id trivial fun _ ht => ⟨ht.probe rfl, trivial⟩).1

theorem send (h : lan.Bounded limit) (id : Nat) (bytes : List UInt8) :
    (Carrier.send lan id bytes).2.Bounded limit :=
  (h.via (Q := fun _ => True) id trivial fun _ ht => ⟨ht.send rfl, trivial⟩).1

theorem receive (h : lan.Bounded limit) (id : Nat) :
    (Carrier.receive lan id).2.Bounded limit ∧ LeavesRoom limit (Carrier.receive lan id).1 :=
  h.via id (leavesRoom_none limit) fun _ ht => ht.receive rfl

theorem exchange (h : lan.Bounded limit) (id : Nat) (bytes : List UInt8) :
    (Carrier.exchange lan id bytes).2.Bounded limit ∧
      ∃ answer, (Carrier.exchange lan id bytes).1 = .ok answer ∧ LeavesRoom limit answer := by
  have hrun : (lan.via id none fun t net => t.exchange net bytes).2.Bounded limit ∧
      LeavesRoom limit (lan.via id none fun t net => t.exchange net bytes).1 :=
    h.via id (leavesRoom_none limit) fun _ ht => ht.exchange rfl
  exact ⟨hrun.1, _, rfl, hrun.2⟩

end Lan.Bounded

namespace Rig

variable {τ : Type} [Zero τ] [Add τ] [Sub τ] [LE τ] [DecidableLE τ] {limit : Whole} {k : Nat}

/-- What may happen between two holds of the link's lock, on a network with one link on it whose transports are built
with this bound: the parts of an update that build and connect a transport, and anything that leaves the transports
as they are, such as bytes arriving and time passing. -/
inductive Between (limit : Whole) : Rig (Lan τ) τ → Rig (Lan τ) τ → Prop
  | around {r r' : Rig (Lan τ) τ} (htransports : r'.outside.transports = r.outside.transports) : Between limit r r'
  | build (r : Rig (Lan τ) τ) {limits : TransportLimits τ} (hlimit : limits.lineLimit = limit) (target : Target) :
      Between limit r (r.via fun o => Carrier.build o limits target).2
  | connect (r : Rig (Lan τ) τ) (id : Nat) : Between limit r (r.via fun o => Carrier.connect o id).2

theorem Between.bounded {r r' : Rig (Lan τ) τ} (haside : Between limit r r') (h : r.outside.Bounded limit) :
    r'.outside.Bounded limit := by
  cases haside with
  | around htransports => exact fun id t ht => h id t (htransports ▸ ht)
  | build hlimit target => exact h.build hlimit target
  | connect id => exact h.connect id

theorem performing_bounded (limit : Whole) : Performing fun r : Rig (Lan τ) τ => r.outside.Bounded limit where
  setLink _ _ h := h
  report _ h := h
  releasing id h := h.disconnect id
  probing id h := h.probe id

theorem messaging_bounded (limit : Whole) (k : Nat) :
    Messaging k fun r : Rig (Lan τ) τ => r.outside.Bounded limit :=
  (performing_bounded limit).messaging k (fun _ id bytes h => h.send id bytes) (fun _ id h => (h.receive id).1)
    fun _ id bytes h => (h.exchange id bytes).1

end Rig

/-- The line that has come back for a use and is still to be read. -/
def Use.Stage.line? : Use.Stage → Option (List UInt8)
  | exchanged line => line
  | received line => line
  | _ => none

/-- A use that goes on is given a line that leaves room for its line end, or keeps the one that it was given. -/
theorem Errand.leavesRoom_proceed {τ : Type} [Zero τ] [Add τ] [Sub τ] [LE τ] [DecidableLE τ] {limit : Whole}
    {k : Nat} {r : Rig (Lan τ) τ} (h : r.outside.Bounded limit) {e : Errand (Lan τ) τ}
    (he : LeavesRoom limit e.stage.line?) : LeavesRoom limit (e.proceed k r).stage.line? := by
  obtain ⟨u, made, called, stage⟩ := e
  cases stage with
  | given id bytes =>
      cases u with
      | send m => exact leavesRoom_none limit
      | receive => exact (h.receive id).2
      | request m =>
          obtain ⟨-, answer, hanswer, hroom⟩ := h.exchange id bytes
          have hcall : (r.via fun o => Carrier.exchange o id bytes).1 = .ok answer := hanswer
          have hstage : (r.proceed k (.request m) (.given id bytes)).1 = .exchanged answer := by
            simp only [Rig.proceed]
            split <;> rename_i heq <;> rw [heq] at hcall
            · cases hcall
            · rw [Except.ok.inj hcall]
          simp only [Errand.proceed, hstage]
          exact hroom
  | exchanged line => exact he
  | _ => exact leavesRoom_none limit

section

variable {τ : Type} [Zero τ] [Add τ] [Sub τ] [Mul τ] [LE τ] [DecidableLE τ] [LT τ] [DecidableLT τ]

namespace Rig.Traffic

variable {limit : Whole} {k : Nat} {origin r : Rig (Lan τ) τ} {inFlight : List Attempt}
  {errands : List (Errand (Lan τ) τ)}

theorem bounded (h : Traffic k origin (Between limit) r inFlight errands) (hnew : origin.outside.transports = #[]) :
    r.outside.Bounded limit := by
  refine h.keeps (performing_bounded limit) (messaging_bounded limit k) (fun _ _ _ id t ht => ?_) fun _ _ haside =>
    haside.bounded
  have hnone : origin.outside.transports[id]? = some t := ht
  simp [hnew] at hnone

/-- Whatever has come back for a use leaves room for its line end. -/
theorem leavesRoom (h : Traffic k origin (Between limit) r inFlight errands)
    (hnew : origin.outside.transports = #[]) : ∀ e ∈ errands, LeavesRoom limit e.stage.line? := by
  refine h.forall_errands_of_reached (fun r _ _ _ u => ?_) fun r _ _ h e he =>
    Errand.leavesRoom_proceed (h.bounded hnew) he
  simp only [Errand.start, Rig.enter]
  split
  · exact leavesRoom_none limit
  · split
    · exact leavesRoom_none limit
    · split <;> exact leavesRoom_none limit

end Rig.Traffic

/-- A line that leaves room for its line end is not refused for its length. -/
theorem Codec.parse_ne_lineTooLong {codec : Codec} {line : List UInt8}
    (hroom : (line.length : Int) + 2 ≤ codec.lineLimit.value) (length : Nat) (bound : Whole) :
    codec.parse (.bytes line) ≠ .error (.lineTooLong length bound) := by
  intro hparse
  have hlong := parse_eq_lineTooLong_iff.mp ⟨length, bound, hparse⟩
  omega

/-- Reader and codec agree on the bound of a line.  What a transport with an empty buffer goes on to read as the line
of a message is given as a line exactly if a codec with the same bound takes it, line end included, which is if it has
no more bytes than the bound; otherwise it is given up.  Whatever the stream, no line that a transport gives is
too long for the codec.  So a link whose transports and whose codec have the same bound is at no time given a line
that its codec refuses for its length. -/
theorem lineBound_agrees (limit : Whole) (hlimit : 2 ≤ limit.value) :
    (∀ m : Message, m.HeaderFits → m.lineBytes = .ok (m.body ++ lineEnd) ∧
      ((∃ m', Codec.decode ⟨limit⟩ (.bytes (m.body ++ lineEnd)) = .message m' ∧ m'.same m = true) ↔
        13 + 12 * m.wordCount ≤ limit.value) ∧
      ∀ (id : Nat) (t t' : Tcp τ) (n n' : Network τ) (account account' : Account) (before : List UInt8),
        Session id t n account → t.connected = true → t.buffer = {} → t.lineLimit = limit →
        account.arrived = before ++ n.incoming id →
        Session id t' n' account' → t'.lineLimit = limit →
        account'.arrived = before ++ (m.body ++ lineEnd) ++ n'.incoming id →
          (account'.readings = account.readings ++ [.line m.body] ↔ 13 + 12 * m.wordCount ≤ limit.value) ∧
            (account'.readings = account.readings ++ [.overflow] ↔ limit.value < 13 + 12 * m.wordCount)) ∧
    (∀ (id : Nat) (t : Tcp τ) (n : Network τ) (account : Account), Session id t n account → t.lineLimit = limit →
      ∀ line ∈ account.lines, ∀ length bound,
        Codec.parse ⟨limit⟩ (.bytes line) ≠ .error (.lineTooLong length bound)) ∧
    ∀ (k : Nat) (origin r : Rig (Lan τ) τ) (inFlight : List Attempt) (errands : List (Errand (Lan τ) τ)) (l : Link τ),
      Rig.Traffic k origin (Rig.Between limit) r inFlight errands → origin.outside.transports = #[] →
      r.link? k = some l → l.codec.lineLimit = limit →
        ∀ e ∈ errands, ∀ line, e.stage.line? = some line → ∀ length bound,
          l.codec.parse (.bytes line) ≠ .error (.lineTooLong length bound) := by
  have hpos : 0 < limit.value := by omega
  refine ⟨fun m hfits => ⟨Message.lineBytes_of_headerFits hfits, ?_, ?_⟩, ?_, ?_⟩
  · obtain ⟨hread, hdropped⟩ := @Codec.decode_body_lineEnd ⟨limit⟩ m hfits
    refine ⟨fun ⟨m', hdecode, _⟩ => ?_, hread⟩
    by_contra hlong
    rw [hdropped hlong] at hdecode
    cases hdecode
  · intro id t t' n n' account account' before h hlive hclear hbound hbefore h' hbound' harrived
    have hgiven := h.readings_from_clear hlive hclear hbefore h' (hbound ▸ hpos) (hbound'.trans hbound.symm) harrived
    rw [hgiven, hbound, readingsOf_line hpos (Message.not_mem_body m), List.append_cancel_left_eq,
      List.append_cancel_left_eq, Reading.ofSegment]
    have hlength := Message.length_body hfits
    by_cases hfull : (m.body.length : Int) + 2 ≤ limit.value
    · simp only [if_pos hfull, true_iff, List.cons.injEq, reduceCtorEq, false_and, false_iff]
      omega
    · simp only [if_neg hfull, true_iff, List.cons.injEq, reduceCtorEq, false_and, false_iff]
      omega
  · intro id t n account h hbound line hline
    refine Codec.parse_ne_lineTooLong ?_
    rw [← hbound]
    exact h.length_of_mem_lines (hbound ▸ hpos) line hline
  · intro k origin r inFlight errands l h hnew _ hcodec e he line hstage
    refine Codec.parse_ne_lineTooLong ?_
    rw [hcodec]
    exact h.leavesRoom hnew e he line hstage

end

/-- The shortest line has thirteen bytes.  With that bound a transport gives it, though it arrives in two parts, and a
link reads it; with a bound of twelve it is given up. -/
theorem lineBound_agrees_shortest :
    ∃ m : Message, m.HeaderFits ∧ m.wordCount = 0 ∧
      (∃ m', Codec.decode ⟨(13 : Int)⟩ (.bytes (m.body ++ lineEnd)) = .message m' ∧ m'.same m = true) ∧
      (¬ ∃ m', Codec.decode ⟨(12 : Int)⟩ (.bytes (m.body ++ lineEnd)) = .message m' ∧ m'.same m = true) ∧
      (∃ (t : Tcp Int) (n : Network Int) (account : Account), Session 0 t n account ∧ t.lineLimit = (13 : Int) ∧
        account.readings = [.line m.body] ∧ ∀ line ∈ account.lines, ∀ length bound,
          Codec.parse ⟨(13 : Int)⟩ (.bytes line) ≠ .error (.lineTooLong length bound)) ∧
      (∃ (t : Tcp Int) (n : Network Int) (account : Account), Session 0 t n account ∧ t.lineLimit = (12 : Int) ∧
        account.readings = [.overflow]) ∧
      ∃ (origin r : Rig (Lan Int) Int) (e : Errand (Lan Int) Int) (l : Link Int),
        Rig.Traffic 0 origin (Rig.Between (13 : Int)) r [] [e] ∧ r.link? 0 = some l ∧
          e.stage.line? = some m.body ∧
          ∀ length bound, l.codec.parse (.bytes m.body) ≠ .error (.lineTooLong length bound) := by
  obtain ⟨hmessages, hlines, hruns⟩ := @lineBound_agrees Int _ _ _ _ _ _ _ _ (13 : Int) (by decide)
  obtain ⟨hnarrow, -⟩ := @lineBound_agrees Int _ _ _ _ _ _ _ _ (12 : Int) (by decide)
  have hfits : ({} : Message).HeaderFits := Message.headerFits_iff.mpr (by decide)
  obtain ⟨-, hdecode, hread⟩ := hmessages {} hfits
  obtain ⟨-, hdecode', hread'⟩ := hnarrow {} hfits
  refine ⟨{}, hfits, rfl, hdecode.mpr (by decide), mt hdecode'.mp (by decide), ?_, ?_, ?_⟩
  · have hopened := @Session.opened Int _ _ _ _ _ 0
      ⟨⟨.text "10.0.0.2", .int 7000⟩, 3, 1, (13 : Int), none, false, {}⟩ _
      { clock := 0, coming := [{ arrivals := [.data [48, 48, 32, 48, 48, 32], .pause 2,
        .data [48, 48, 32, 48, 48, 13, 10]] }] } _ rfl rfl rfl
    have hdone := (hopened.receive rfl).receive rfl
    have hgiven := (hread 0 _ _ _ _ _ _ [] hopened rfl rfl rfl rfl hdone rfl (by decide +kernel)).1.mpr (by decide)
    exact ⟨_, _, _, hdone, rfl, hgiven, hlines 0 _ _ _ hdone rfl⟩
  · have hopened := @Session.opened Int _ _ _ _ _ 0
      ⟨⟨.text "10.0.0.2", .int 7000⟩, 3, 1, (12 : Int), none, false, {}⟩ _
      { clock := 0, coming := [{ arrivals := [.data [48, 48, 32, 48, 48, 32, 48, 48, 32, 48, 48, 13, 10]] }] } _
      rfl rfl rfl
    have hdone := (hopened.receive rfl).receive rfl
    have hgiven := (hread' 0 _ _ _ _ _ _ [] hopened rfl rfl rfl rfl hdone rfl (by decide +kernel)).2.mpr (by decide)
    exact ⟨_, _, _, hdone, rfl, hgiven⟩
  · let origin : Rig (Lan Int) Int :=
      { outside := { net := { clock := 0, coming := [{ arrivals :=
        [.data [48, 48, 32, 48, 48, 32, 48, 48, 32, 48, 48, 13, 10]] }] } } }
    have hmade : Rig.Traffic 0 origin (Rig.Between (13 : Int)) _ [] [] :=
      .made ⟨⟨3, 2, (13 : Int)⟩, ⟨(13 : Int)⟩, 5, 0, .start 1 2 30⟩ "10.0.0.2" 7000 .log rfl
    have hclaimed := (hmade.setEnabled true).look.look
    have hlimit : (⟨3, 2, (13 : Int)⟩ : TransportLimits Int).lineLimit = (13 : Int) := rfl
    have hbuilt := hclaimed.elsewhere (.build _ hlimit (.of "10.0.0.2" 7000))
    have hconnected := (hbuilt.elsewhere (.connect _ 0)).conclude 0 true
    obtain ⟨r, e, hreceived, hcodec, hline⟩ : ∃ r e, Rig.Traffic 0 origin (Rig.Between (13 : Int)) r [] [e] ∧
        (r.link? 0).map (·.codec.lineLimit) = some (13 : Int) ∧ e.stage.line? = some ({} : Message).body :=
      ⟨_, _, @Rig.Traffic.proceed _ _ _ _ _ _ _ _ _ _ _ _ _ _ _ [] [] _ (hconnected.enter .receive),
        by decide +kernel, by decide +kernel⟩
    obtain ⟨l, hl, hbound⟩ := Option.map_eq_some_iff.mp hcodec
    exact ⟨origin, r, e, l, hreceived, hl, hline,
      hruns 0 origin r [] [e] l hreceived rfl hl hbound e List.mem_cons_self _ hline⟩

end PeripheralLink
