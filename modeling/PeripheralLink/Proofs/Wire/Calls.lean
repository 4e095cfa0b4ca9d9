import PeripheralLink.Proofs.Wire.Loops
import PeripheralLink.Wire.Tcp
/-!
What one call of a transport does: to the transport, to the bytes that are still arriving at its
socket, and to the journal.  Each call has one lemma, named after it with `_spec`, and for connecting there is
besides what it can do, `Connects`, with one case for each way it goes; what uses the calls need not open them.
-/

namespace PeripheralLink

section Journal

variable {τ : Type}

def WireEntry.accepted (id : Nat) : WireEntry τ → List UInt8
  | call (.send socket bytes) => if socket = id then bytes else []
  | _ => []

def WireEntry.readings : WireEntry τ → List Reading
  | notice (.lineOverflow _) => [.overflow]
  | _ => []

/-- What a call gives its reader: the line that it returns or, if it returns none, the overflow that it
reports. -/
def readingsGiven (line : Option (List UInt8)) (entries : List (WireEntry τ)) : List Reading :=
  match line with
  | some bytes => [.line bytes]
  | none => entries.flatMap WireEntry.readings

/-- An entry by which no bytes are taken and no line is given up. -/
structure WireEntry.Quiet (e : WireEntry τ) : Prop where
  accepted (id : Nat) : e.accepted id = []
  readings : e.readings = []

theorem flatMap_of_quiet {entries : List (WireEntry τ)} (h : ∀ e ∈ entries, e.Quiet) :
    entries.flatMap WireEntry.readings = [] ∧ ∀ id, entries.flatMap (WireEntry.accepted id) = [] :=
  ⟨List.flatMap_eq_nil_iff.mpr fun e he => (h e he).readings,
    fun id => List.flatMap_eq_nil_iff.mpr fun e he => (h e he).accepted id⟩

/-- The entries by which chunks are handed over to a socket. -/
def sendEntries (id : Nat) (chunks : List (List UInt8)) : List (WireEntry τ) :=
  chunks.map fun chunk => .call (.send id chunk)

/-- Chunks that are handed over, with nothing of note after them. -/
theorem flatMap_sends (id : Nat) (chunks : List (List UInt8)) {closing : List (WireEntry τ)}
    (hclosing : ∀ e ∈ closing, e.Quiet) :
    (sendEntries id chunks ++ closing).flatMap WireEntry.readings = [] ∧
      (sendEntries id chunks ++ closing).flatMap (WireEntry.accepted id) = chunks.flatten := by
  induction chunks with
  | nil =>
      obtain ⟨hreadings, haccepted⟩ := flatMap_of_quiet hclosing
      exact ⟨hreadings, haccepted id⟩
  | cons chunk chunks ih =>
      obtain ⟨hreadings, haccepted⟩ := ih
      rw [sendEntries, List.map_cons, ← sendEntries, List.cons_append, List.flatMap_cons,
        List.flatMap_cons, hreadings, haccepted]
      exact ⟨rfl, by simp [WireEntry.accepted]⟩

/-- A call by which a socket is got ready: it creates none and closes none, and hands over nothing. -/
def SocketCall.prepares : SocketCall τ → Bool
  | .create _ => false
  | .close _ => false
  | .send _ _ => false
  | _ => true

namespace Network

def since (n n' : Network τ) : List (WireEntry τ) := n'.journal.toList.drop n.journal.size

/-- The journal has grown by these entries. -/
def Adds (n n' : Network τ) (entries : List (WireEntry τ)) : Prop :=
  n'.journal.toList = n.journal.toList ++ entries

variable {n n' n'' : Network τ} {entries entries' : List (WireEntry τ)}

theorem Adds.nil (h : n'.journal = n.journal) : n.Adds n' [] := by simp [Adds, h]

theorem Adds.trans (h : n.Adds n' entries) (h' : n'.Adds n'' entries') :
    n.Adds n'' (entries ++ entries') := by
  rw [Adds, h', h, List.append_assoc]

theorem adds_record (n : Network τ) (call : SocketCall τ) : n.Adds (n.record call) [.call call] := by
  simp [Adds, record]

theorem adds_report (n : Network τ) (notice : TransportNotice) :
    n.Adds (n.report notice) [.notice notice] := by
  simp [Adds, report]

theorem Adds.since (h : n.Adds n' entries) : n.since n' = entries := by
  rw [Network.since, h, ← Array.length_toList, List.drop_left]

theorem since_trans (h : n.Adds n' entries) (h' : n'.Adds n'' entries') :
    n.since n'' = n.since n' ++ n'.since n'' := by
  rw [(h.trans h').since, h.since, h'.since]

@[simp] theorem since_self (n : Network τ) : n.since n = [] := (Adds.nil rfl).since

/-- Only quiet entries have been made. -/
def Quietly (n n' : Network τ) : Prop := ∃ entries, n.Adds n' entries ∧ ∀ e ∈ entries, e.Quiet

theorem Quietly.trans (h : n.Quietly n') (h' : n'.Quietly n'') : n.Quietly n'' := by
  obtain ⟨entries, hadds, hquiet⟩ := h
  obtain ⟨entries', hadds', hquiet'⟩ := h'
  refine ⟨entries ++ entries', hadds.trans hadds', fun e he => ?_⟩
  rcases List.mem_append.mp he with he | he
  · exact hquiet e he
  · exact hquiet' e he

theorem Quietly.record (n : Network τ) {call : SocketCall τ} (hquiet : (WireEntry.call call).Quiet) :
    n.Quietly (n.record call) :=
  ⟨_, adds_record n call, by simpa using hquiet⟩

theorem Quietly.report (n : Network τ) {notice : TransportNotice}
    (hquiet : (WireEntry.notice notice : WireEntry τ).Quiet) : n.Quietly (n.report notice) :=
  ⟨_, adds_report n notice, by simpa using hquiet⟩

theorem Quietly.of_journal (h : n'.journal = n.journal) : n.Quietly n' := ⟨[], .nil h, by simp⟩

theorem snd_close (n : Network τ) (id : Nat) : (n.close id).2 = n.record (.close id) := by
  unfold close
  dsimp only
  split <;> rfl

theorem snd_discard (n : Network τ) (id : Nat) : (n.discard id).2 = n.record (.close id) := by
  unfold discard
  dsimp only
  split <;> rfl

/-- Nothing but the journal has changed. -/
def Notes (n n' : Network τ) : Prop := ∃ journal, n' = { n with journal }

theorem Notes.refl (n : Network τ) : n.Notes n := ⟨n.journal, rfl⟩

theorem notes_record (n : Network τ) (call : SocketCall τ) : n.Notes (n.record call) := ⟨_, rfl⟩

theorem notes_report (n : Network τ) (notice : TransportNotice) : n.Notes (n.report notice) := ⟨_, rfl⟩

theorem Notes.trans (h : n.Notes n') (h' : n'.Notes n'') : n.Notes n'' := by
  obtain ⟨journal, rfl⟩ := h
  obtain ⟨journal', rfl⟩ := h'
  exact ⟨journal', rfl⟩

theorem Notes.clock (h : n.Notes n') : n'.clock = n.clock := by
  obtain ⟨journal, rfl⟩ := h
  rfl

theorem Notes.coming (h : n.Notes n') : n'.coming = n.coming := by
  obtain ⟨journal, rfl⟩ := h
  rfl

theorem Notes.sockets (h : n.Notes n') : n'.sockets = n.sockets := by
  obtain ⟨journal, rfl⟩ := h
  rfl

theorem Notes.socket (h : n.Notes n') (id : Nat) : n'.socket id = n.socket id := by
  obtain ⟨journal, rfl⟩ := h
  rfl

/-- All that has happened is that sockets were got ready. -/
inductive Prepares (n : Network τ) : Network τ → Prop
  | refl : Prepares n n
  | record {n' : Network τ} {call : SocketCall τ} (h : Prepares n n') (hcall : call.prepares = true) :
      Prepares n (n'.record call)
  | report {n' : Network τ} (h : Prepares n n') : Prepares n (n'.report .keepAliveUnsupported)

theorem Prepares.trans (h : n.Prepares n') (h' : n'.Prepares n'') : n.Prepares n'' := by
  induction h' with
  | refl => exact h
  | record _ hcall ih => exact ih.record hcall
  | report _ ih => exact ih.report

/-- Getting sockets ready changes the network in nothing but the journal. -/
theorem Prepares.notes (h : n.Prepares n') : n.Notes n' := by
  induction h with
  | refl => exact .refl n
  | record _ _ ih => exact ih.trans (notes_record _ _)
  | report _ ih => exact ih.trans (notes_report _ _)

theorem prepares_attempt (n : Network τ) (id : Nat) (step : OpeningStep) {call : SocketCall τ}
    (hcall : call.prepares = true) : n.Prepares (n.attempt id step call).2 := by
  unfold attempt
  split
  · exact .record .refl hcall
  · exact .refl
  · exact .record .refl hcall

theorem prepares_attemptAll (n : Network τ) (id : Nat) (calls : List (OpeningStep × SocketCall τ))
    (hcalls : ∀ c ∈ calls, c.2.prepares = true) : n.Prepares (n.attemptAll id calls).2 := by
  induction calls generalizing n with
  | nil => exact .refl
  | cons first rest ih =>
      obtain ⟨step, call⟩ := first
      obtain ⟨hfirst, hrest⟩ := List.forall_mem_cons.mp hcalls
      have hattempted := n.prepares_attempt id step hfirst
      unfold attemptAll
      split
      · rename_i heq
        rw [heq] at hattempted
        exact hattempted.trans (ih _ hrest)
      · exact hattempted

/-- The chunks that were handed over, the last one first, are entered in order. -/
theorem foldr_record (n : Network τ) (id : Nat) (taken : List (List UInt8)) :
    n.Adds (taken.foldr (fun chunk n => n.record (.send id chunk)) n)
        (sendEntries id taken.reverse) ∧
      n.Notes (taken.foldr (fun chunk n => n.record (.send id chunk)) n) := by
  induction taken with
  | nil => exact ⟨.nil rfl, .refl n⟩
  | cons chunk taken ih =>
      obtain ⟨hadds, hnotes⟩ := ih
      rw [List.foldr_cons, List.reverse_cons, sendEntries, List.map_append]
      exact ⟨hadds.trans (adds_record _ _), hnotes.trans (notes_record _ _)⟩

/-- The bytes that are still arriving at a socket. -/
def incoming (n : Network τ) (id : Nat) : List UInt8 := (n.socket id).incoming

theorem incoming_of_sockets (h : n'.sockets = n.sockets) (id : Nat) :
    n'.incoming id = n.incoming id := by
  rw [incoming, incoming, socket, socket, h]

/-- A socket that has been read from has what is left; one that does not exist had nothing. -/
theorem incoming_setSocket (n : Network τ) {id : Nat} {s : Socket τ} (taken : List UInt8)
    (h : n.incoming id = taken ++ s.incoming) : (n.setSocket id s).incoming id = s.incoming := by
  by_cases hid : id < n.sockets.size
  · simp [incoming, socket, setSocket, hid]
  · have hnone : (n.setSocket id s).incoming id = n.incoming id := by
      simp [incoming, socket, setSocket, hid]
    have hempty : n.incoming id = [] := by simp [incoming, socket, hid, Socket.incoming]
    rw [hempty, eq_comm, List.append_eq_nil_iff] at h
    rw [hnone, hempty, h.2]

end Network

end Journal

namespace Tcp

section

variable {τ : Type}

def idle (t : Tcp τ) : Tcp τ := { t with socket := none, connected := false, buffer := {} }

/-- All that happens from one moment to the other is that the connection is closed. -/
structure Closes (t : Tcp τ) (n : Network τ) (after : Tcp τ × Network τ) : Prop where
  idle : after.1 = t.idle
  incoming (id : Nat) : after.2.incoming id = n.incoming id
  quietly : n.Quietly after.2

variable (t : Tcp τ) (n : Network τ)

theorem release_spec : t.Closes n (t.release n) := by
  unfold release
  cases t.socket with
  | none => exact ⟨rfl, fun _ => rfl, .of_journal rfl⟩
  | some id =>
      have hclosed : n.Quietly (n.record (.close id)) := .record n ⟨fun _ => rfl, rfl⟩
      have hclose := n.snd_close id
      dsimp only
      cases hresult : n.close id with
      | mk result n₁ =>
          rw [hresult] at hclose
          subst hclose
          cases result with
          | ok _ => exact ⟨rfl, fun _ => rfl, hclosed⟩
          | error fault =>
              exact ⟨rfl, fun _ => rfl, hclosed.trans (.report _ ⟨fun _ => rfl, rfl⟩)⟩

/-- Closing the connection changes the network in nothing but the journal. -/
theorem notes_release : n.Notes (t.release n).2 := by
  unfold release
  cases t.socket with
  | none => exact .refl n
  | some id =>
      have hclose := n.snd_close id
      dsimp only
      cases hresult : n.close id with
      | mk result n₁ =>
          rw [hresult] at hclose
          obtain rfl : n₁ = n.record (.close id) := hclose
          cases result with
          | ok _ => exact n.notes_record _
          | error fault => exact (n.notes_record _).trans (Network.notes_report _ _)

theorem notes_drop (reason : TransportNotice) : n.Notes (t.drop n reason).2 :=
  (n.notes_report reason).trans (t.notes_release _)

theorem drop_spec {reason : TransportNotice}
    (hquiet : (WireEntry.notice reason : WireEntry τ).Quiet) : t.Closes n (t.drop n reason) where
  idle := (t.release_spec _).idle
  incoming := (t.release_spec _).incoming
  quietly := (Network.Quietly.report n hquiet).trans (t.release_spec _).quietly

/-- The answer of a call that ends by closing the connection. -/
theorem closes_of_drop {α : Type} {t t' : Tcp τ} {n n' : Network τ} {answer answer' : α}
    {reason : TransportNotice} (h : (answer, t.drop n reason) = (answer', t', n'))
    (hquiet : (WireEntry.notice reason : WireEntry τ).Quiet) :
    answer' = answer ∧ t.Closes n (t', n') := by
  obtain ⟨hanswer, hdrop⟩ := Prod.mk.inj h
  exact ⟨hanswer.symm, hdrop ▸ t.drop_spec n hquiet⟩

theorem disconnect_spec : t.Closes n (t.disconnect n) := by
  have hreleased := t.release_spec n
  refine ⟨hreleased.idle, fun id => ?_, ?_⟩ <;> unfold disconnect <;> dsimp only <;> split
  · exact hreleased.incoming id
  · exact hreleased.incoming id
  · exact hreleased.quietly.trans (.report _ ⟨fun _ => rfl, rfl⟩)
  · exact hreleased.quietly

theorem prepares_setUp (id : Nat) : n.Prepares (t.setUp id n).2 := by
  have hoptions : ∀ options, ∀ c ∈ (optionCalls id options : List (OpeningStep × SocketCall τ)),
      c.2.prepares = true := by
    intro options c hc
    obtain ⟨option, -, rfl⟩ := List.mem_map.mp hc
    rfl
  have hdialed := n.prepares_attemptAll id ((.setTimeout, .setTimeout id t.connectTimeout) ::
    (.connect, .connect id t.target) :: optionCalls id keepAliveOptions) (by
      simpa [SocketCall.prepares] using hoptions keepAliveOptions)
  unfold setUp
  split
  · rename_i heq
    rw [heq] at hdialed
    exact hdialed
  · rename_i n₁ heq
    rw [heq] at hdialed
    have hdetails := hdialed.trans (n₁.prepares_attemptAll id _ (hoptions keepAliveDetails))
    split
    · rename_i n₂ heq
      rw [heq] at hdetails
      exact hdetails.trans (n₂.prepares_attempt id .setBlocking rfl)
    · rename_i fault n₂ heq
      rw [heq] at hdetails
      split
      · exact hdetails.report.trans (Network.prepares_attempt _ id .setBlocking rfl)
      · exact hdetails

/-- The old connection has been given up, and the next socket, created under the number `id`, has been set up
with this outcome. -/
inductive Dials : Nat → Except Fault Unit → Network τ → Prop
  | intro {id : Nat} {outcome : Except Fault Unit} {n₁ n₂ : Network τ}
      (hcreate : (t.release n).2.create = (.ok id, n₁)) (hset : t.idle.setUp id n₁ = (outcome, n₂)) :
      Dials id outcome n₂

/-- What connecting does to a transport without a connection.  A socket that the system has refused to set up is
withdrawn, and a failure of that takes the place of the answer. -/
inductive Connects : Except Fault Bool → Tcp τ → Network τ → Prop
  | refused {text : String} {n₁ : Network τ} (hcreate : (t.release n).2.create = (.error (.system text), n₁)) :
      Connects (.ok false) t.idle (n₁.report (.connectFailed t.target text))
  | uncreated {fault : Fault} {n₁ : Network τ} (hcreate : (t.release n).2.create = (.error fault, n₁))
      (hsystem : fault.isSystem = false) : Connects (.error fault) t.idle n₁
  | opened {id : Nat} {n₁ : Network τ} (hdials : Dials t n id (.ok ()) n₁) :
      Connects (.ok true) { t with socket := some id, connected := true, buffer := {} }
        (n₁.report (.connected t.target))
  | withdrawn {id : Nat} {text : String} {n₁ n₂ : Network τ} {answer : Except Fault Unit}
      (hdials : Dials t n id (.error (.system text)) n₁)
      (hdiscard : (n₁.report (.connectFailed t.target text)).discard id = (answer, n₂)) :
      Connects (answer.map fun _ => false) t.idle n₂
  | broken {id : Nat} {fault : Fault} {n₁ : Network τ} (hdials : Dials t n id (.error fault) n₁)
      (hsystem : fault.isSystem = false) : Connects (.error fault) t.idle n₁

theorem connects {t t' : Tcp τ} {n n' : Network τ} {result : Except Fault Bool} (hclosed : t.connected = false)
    (h : t.connect n = (result, t', n')) : t.Connects n result t' n' := by
  have hidle := (t.release_spec n).idle
  simp only [connect, hclosed, Bool.false_eq_true, ↓reduceIte] at h
  cases hcreate : (t.release n).2.create with
  | mk created n₁ =>
      rw [hcreate, hidle] at h
      cases created with
      | error fault =>
          cases fault with
          | system text =>
              cases h
              exact .refused hcreate
          | _ =>
              cases h
              exact .uncreated hcreate rfl
      | ok id =>
          dsimp only at h
          cases hset : t.idle.setUp id n₁ with
          | mk outcome n₂ =>
              have hdials : t.Dials n id outcome n₂ := .intro hcreate hset
              rw [hset] at h
              cases outcome with
              | ok _ =>
                  cases h
                  exact .opened hdials
              | error fault =>
                  cases fault with
                  | system text =>
                      cases hdiscard : (n₂.report (.connectFailed t.target text)).discard id with
                      | mk answer n₃ =>
                          dsimp only at h
                          rw [show t.idle.target = t.target from rfl, hdiscard] at h
                          cases answer <;> cases h <;> exact .withdrawn hdials hdiscard
                  | _ =>
                      cases h
                      exact .broken hdials rfl

/-- A connection that has been opened starts with a clear buffer. -/
theorem connect_spec {t t' : Tcp τ} {n n' : Network τ} (hidle : t.connected = false)
    (hopen : t.connect n = (.ok true, t', n')) :
    ∃ id, t' = { t with socket := some id, connected := true, buffer := {} } := by
  generalize hresult : Except.ok true = result at hopen
  cases connects hidle hopen with
  | opened hdials => exact ⟨_, rfl⟩
  | @withdrawn _ _ _ _ answer _ _ => cases answer <;> cases hresult
  | _ => cases hresult

/-- A probe takes nothing, and closes the connection exactly when it fails. -/
theorem probe_spec {t t' : Tcp τ} {n n' : Network τ} {id : Nat} {alive : Bool} (hopen : t.open? = some id)
    (h : t.probe n = (alive, t', n')) :
    n'.incoming id = n.incoming id ∧ n.Quietly n' ∧ t' = if alive then t else t.idle := by
  have hpeek := (n.socket id).incoming_peek
  simp only [probe, hopen] at h
  cases hp : (n.socket id).peek with
  | mk received s =>
      rw [hp] at h hpeek
      have hlooked : (n.setSocket id s).incoming id = n.incoming id :=
        (n.incoming_setSocket [] hpeek.symm).trans hpeek
      have hquiet : n.Quietly (n.setSocket id s) := .of_journal rfl
      cases received with
      | failed text =>
          obtain ⟨rfl, hcloses⟩ := closes_of_drop h ⟨fun _ => rfl, rfl⟩
          exact ⟨(hcloses.incoming id).trans hlooked, hquiet.trans hcloses.quietly, hcloses.idle⟩
      | ended =>
          obtain ⟨rfl, hcloses⟩ := closes_of_drop h ⟨fun _ => rfl, rfl⟩
          exact ⟨(hcloses.incoming id).trans hlooked, hquiet.trans hcloses.quietly, hcloses.idle⟩
      | _ =>
          cases h
          exact ⟨hlooked, hquiet, rfl⟩

end

variable {τ : Type} [Zero τ] [Add τ] [Sub τ] [LE τ] [DecidableLE τ] {t t' : Tcp τ} {n n' : Network τ}
  {id : Nat}

/-- Sending has a front part of the bytes taken, and closes the connection unless that is all of
them. -/
theorem send_spec {bytes : List UInt8} {done : Bool} (hopen : t.open? = some id)
    (h : t.send n bytes = (done, t', n')) :
    n'.incoming id = n.incoming id ∧ (t' = if done then t else t.idle) ∧
      ∃ entries, n.Adds n' entries ∧ entries.flatMap WireEntry.readings = [] ∧
        entries.flatMap (WireEntry.accepted id) <+: bytes ∧
        (done = true ↔ entries.flatMap (WireEntry.accepted id) = bytes) := by
  simp only [send, hopen] at h
  cases hwrite : (n.socket id).writeAll (n.clock + t.ioTimeout) (n.socket id).writeRounds n.clock 0
      bytes [] with
  | mk result rest =>
      obtain ⟨s, clock, taken⟩ := rest
      obtain ⟨harrivals, chunks, htaken, hfront, hall⟩ := Socket.writeAll_takes _ _ _ _ _ _ _ hwrite
      rw [hwrite, htaken, List.append_nil] at h
      dsimp only at h
      obtain ⟨hadds, hnotes⟩ :=
        Network.foldr_record { n.setSocket id s with clock } id chunks.reverse
      rw [List.reverse_reverse] at hadds
      generalize chunks.reverse.foldr _ _ = n₁ at h hadds hnotes
      have hincoming : n₁.incoming id = n.incoming id := by
        have hsame : s.incoming = n.incoming id := by rw [Socket.incoming, harrivals]; rfl
        rw [Network.incoming_of_sockets hnotes.sockets]
        exact (n.incoming_setSocket [] hsame.symm).trans hsame
      have hend : n'.incoming id = n₁.incoming id ∧ (t' = if done then t else t.idle) ∧
          n₁.Quietly n' ∧ (done = true ↔ result = .done) := by
        cases result with
        | done =>
            cases h
            exact ⟨rfl, rfl, .of_journal rfl, by simp⟩
        | _ =>
            obtain ⟨rfl, hcloses⟩ := closes_of_drop h ⟨fun _ => rfl, rfl⟩
            exact ⟨hcloses.incoming id, hcloses.idle, hcloses.quietly, by simp⟩
      obtain ⟨hleft, ht, ⟨closing, hclosing, hquiet⟩, hdone⟩ := hend
      obtain ⟨hreadings, haccepted⟩ := flatMap_sends id chunks hquiet
      exact ⟨hleft.trans hincoming, ht, _, hadds.trans hclosing, hreadings, haccepted ▸ hfront,
        haccepted ▸ hdone.trans hall⟩

/-- Receiving reads a line from the socket: what it leaves there is what the reading leaves, the end of the
line is answered or reported, and the partial line stays unless the connection breaks. -/
theorem receive_reads {line : Option (List UInt8)} (hopen : t.open? = some id)
    (h : t.receive n = (line, t', n')) :
    ∃ result s clock buffer, (n.socket id).readLine t.lineLimit.value (n.clock + t.ioTimeout)
        (n.socket id).readRounds n.clock t.buffer = (result, s, clock, buffer) ∧
      n'.incoming id = s.incoming ∧ (t' = { t with buffer } ∨ t' = t.idle) ∧
      ∃ entries, n.Adds n' entries ∧ readingsGiven line entries = result.readings ∧
        ∀ socket, entries.flatMap (WireEntry.accepted socket) = [] := by
  simp only [receive, hopen] at h
  cases hread : (n.socket id).readLine t.lineLimit.value (n.clock + t.ioTimeout)
      (n.socket id).readRounds n.clock t.buffer with
  | mk result rest =>
      obtain ⟨s, clock, buffer⟩ := rest
      refine ⟨result, s, clock, buffer, rfl, ?_⟩
      obtain ⟨taken, hfront, -⟩ := (Socket.readLine_runs _ _ _ _ _ _ hread).reads
      have hleft : Network.incoming { n.setSocket id s with clock } id = s.incoming :=
        n.incoming_setSocket taken hfront
      rw [hread] at h
      cases result with
      | line bytes =>
          cases h
          exact ⟨hleft, .inl rfl, [], .nil rfl, rfl, fun _ => rfl⟩
      | expired =>
          cases h
          exact ⟨hleft, .inl rfl, [], .nil rfl, rfl, fun _ => rfl⟩
      | overflow =>
          cases h
          exact ⟨hleft, .inl rfl, _, Network.adds_report _ _, rfl, fun _ => rfl⟩
      | _ =>
          obtain ⟨rfl, hcloses⟩ := closes_of_drop h ⟨fun _ => rfl, rfl⟩
          obtain ⟨entries, hadds, hquiet⟩ := hcloses.quietly
          obtain ⟨hreadings, haccepted⟩ := flatMap_of_quiet hquiet
          exact ⟨(hcloses.incoming id).trans hleft, .inr hcloses.idle, entries, hadds, hreadings, haccepted⟩

/-- Receiving takes bytes from the front of what is arriving and has the buffer absorb them.  What
they give is answered or reported, and the rest of a line stays unless the connection breaks. -/
theorem receive_spec {line : Option (List UInt8)} (hopen : t.open? = some id)
    (h : t.receive n = (line, t', n')) :
    ∃ taken buffer entries, n.incoming id = taken ++ n'.incoming id ∧
      t.buffer.absorb t.lineLimit.value taken =
        (buffer, readingsGiven line entries) ∧
      n.Adds n' entries ∧ (∀ socket, entries.flatMap (WireEntry.accepted socket) = []) ∧
      (t' = { t with buffer } ∨ t' = t.idle) := by
  obtain ⟨result, s, clock, buffer, hread, hleft, ht, entries, hadds, hgiven, haccepted⟩ :=
    receive_reads hopen h
  obtain ⟨taken, hfront, habsorb⟩ := (Socket.readLine_runs _ _ _ _ _ _ hread).reads
  exact ⟨taken, buffer, entries, by rw [hleft]; exact hfront, by rw [habsorb, hgiven], hadds, haccepted, ht⟩

theorem adds_send {bytes : List UInt8} {done : Bool} (h : t.send n bytes = (done, t', n')) :
    ∃ entries, n.Adds n' entries ∧ entries.flatMap WireEntry.readings = [] := by
  cases hopen : t.open? with
  | none =>
      simp only [send, hopen, Prod.mk.injEq] at h
      exact ⟨[], .nil (by rw [h.2.2]), rfl⟩
  | some id =>
      obtain ⟨-, -, entries, hadds, hreadings, -⟩ := send_spec hopen h
      exact ⟨entries, hadds, hreadings⟩

theorem adds_receive {line : Option (List UInt8)} (h : t.receive n = (line, t', n')) :
    ∃ entries, n.Adds n' entries := by
  cases hopen : t.open? with
  | none =>
      simp only [receive, hopen, Prod.mk.injEq] at h
      exact ⟨[], .nil (by rw [h.2.2])⟩
  | some id =>
      obtain ⟨-, -, entries, -, -, hadds, -⟩ := receive_spec hopen h
      exact ⟨entries, hadds⟩

/-- An exchange that reads a line has sent its message whole. -/
theorem exchange_eq_some {bytes line : List UInt8} (h : t.exchange n bytes = (some line, t', n')) :
    (t.send n bytes).1 = true ∧ t'.lineLimit = t.lineLimit ∧ ∃ entries, n.Adds n' entries := by
  cases hopen : t.open? with
  | none => simp [exchange, send, hopen] at h
  | some id =>
      rw [exchange] at h
      cases hsend : t.send n bytes with
      | mk done rest =>
          obtain ⟨t₁, n₁⟩ := rest
          obtain ⟨-, ht₁, entries, hadds, -⟩ := send_spec hopen hsend
          rw [hsend] at h
          cases done with
          | false => simp at h
          | true =>
              obtain rfl : t₁ = t := ht₁
              obtain ⟨_, _, entries', -, -, hadds', -, ht'⟩ := receive_spec hopen h
              refine ⟨rfl, ?_, entries ++ entries', hadds.trans hadds'⟩
              rcases ht' with rfl | rfl <;> rfl

end Tcp

end PeripheralLink
