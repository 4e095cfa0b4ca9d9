import PeripheralLink.Proofs.Companion.Service
import PeripheralLink.Proofs.Link.Sound
import PeripheralLink.Proofs.Rig.Stations
import PeripheralLink.Proofs.Wire.Session
import PeripheralLink.Wire.Lan
/-!
A link and a companion that talk over one connection.  The two sides run apart and have two streams of
bytes in common: what the companion takes in is a front part of what the link's socket has taken, and
what arrives at that socket is a front part of what the companion's has carried.  Nothing else is said
about how the bytes go from one to the other.

`Dialogue` is the link's side: one connection from its opening on, over which requests are made that are
all answered.  The main statement is `Dialogue.agrees`: the companion has then handled these requests,
each of them once and in order, and every reply is the answer to its own request.
-/

namespace PeripheralLink

/-- A line that is read as this message by a codec with the bound that is set by default. -/
def ReadAs (line : List UInt8) (m : Message) : Prop :=
  ∃ codec : Codec, codec.lineLimit.value = defaultLineLimit ∧ codec.decode (.bytes line) = .message m

theorem ReadAs.same {answer m : Message} (h : ReadAs answer.body m) (hfits : answer.HeaderFits) :
    m.same answer = true := by
  obtain ⟨codec, hlimit, hdecode⟩ := h
  obtain ⟨m', hread, hsame⟩ := Codec.decode_body hfits hlimit
  cases hread.symm.trans hdecode
  exact hsame

/-- The account of requests that were all answered: each was sent whole, and for each a line was read that
is its reply. -/
structure Account.Replied (account : Account) (xs : List (Message × Message)) : Prop where
  fits : ∀ x ∈ xs, x.1.HeaderFits
  sends : account.sends = xs.map fun x => (x.1.body ++ lineEnd, true)
  readings : ∃ lines, account.readings = lines.map .line ∧ List.Forall₂ ReadAs lines (xs.map Prod.snd)

namespace Account.Replied

variable {account : Account} {xs : List (Message × Message)}

theorem accepted {live : Bool} (h : account.Replied xs) (hdelivers : account.Delivers live) :
    account.accepted = framed ((xs.map Prod.fst).map Message.body) := by
  have hsends : account.sends = (xs.map fun x => x.1.body ++ lineEnd).map (·, true) := by
    rw [h.sends, List.map_map]
    rfl
  rw [hdelivers.flatten hsends, framed, List.map_map, List.flatMap_map]
  rfl

/-- One more request that was answered. -/
theorem request {τ : Type} {entries : List (WireEntry τ)} (h : account.Replied xs) (id : Nat)
    {m reply : Message} (hfits : m.HeaderFits) {line : List UInt8} (hline : ReadAs line reply) :
    (account.after id [(m.body ++ lineEnd, true)] (some line) entries).Replied (xs ++ [(m, reply)]) := by
  obtain ⟨hall, hsends, lines, hlines, hread⟩ := h
  refine ⟨?_, ?_, lines ++ [line], ?_, ?_⟩
  · intro x hx
    rcases List.mem_append.mp hx with hx | hx
    · exact hall x hx
    · rw [List.mem_singleton.mp hx]
      exact hfits
  · rw [List.map_append, ← hsends]
    rfl
  · rw [List.map_append, ← hlines]
    rfl
  · rw [List.map_append]
    exact @List.rel_append _ _ _ _ _ hread _ _ (.cons hline .nil)

end Account.Replied

section

variable {τ : Type}

/-- The bytes that a socket has taken by this entry. -/
def Entry.accepted (id : Nat) : Entry τ → List UInt8
  | .socket (.send taker bytes) => if taker = id then bytes else []
  | _ => []

theorem WireEntry.accepted_entry (id : Nat) (e : WireEntry τ) : e.entry.accepted id = e.accepted id := by
  cases e with
  | call call => cases call <;> rfl
  | notice notice => rfl

/-- The entries of a network, as they stand in a rig's journal. -/
theorem flatMap_accepted_entry (id : Nat) (entries : List (WireEntry τ)) :
    ((entries.map OutsideEntry.wire).map OutsideEntry.entry).flatMap (Entry.accepted id) =
      entries.flatMap (WireEntry.accepted id) := by
  rw [List.map_map, List.flatMap_map]
  exact congrArg (List.flatMap · entries) (funext fun e => e.accepted_entry id)

namespace Rig

/-- Link `k` is connected through a transport, with the bound that is set by default. -/
def Speaks {σ : Type} (r : Rig σ τ) (k transport : Nat) : Prop :=
  ∃ l, r.link? k = some l ∧ l.channel? = some transport ∧ l.codec.lineLimit.value = defaultLineLimit

/-- A request that is answered has exchanged a line for a line, and the reply is what that line says. -/
theorem request_eq_some {σ : Type} [Carrier σ τ] {r r' : Rig σ τ} {k transport : Nat}
    (hspeaks : r.Speaks k transport) {m reply : Message} {bytes : List UInt8}
    (hbytes : m.lineBytes = .ok bytes) (hcall : r.request k m = (.ok (some reply), r')) :
    r'.Speaks k transport ∧ ∃ line r₁,
      (r.via fun o => Carrier.exchange o transport bytes) = (.ok (some line), r₁) ∧
        ReadAs line reply ∧ r'.outside = r₁.outside ∧ r'.journal = r₁.journal := by
  obtain ⟨l, hl, hchannel, hlimit⟩ := hspeaks
  have hbound : (r.link? k).bind Link.channel? = some transport := by rw [hl, Option.bind_some, hchannel]
  rw [request, hbound] at hcall
  dsimp only at hcall
  rw [hbytes] at hcall
  dsimp only at hcall
  cases hexchange : r.via fun o => Carrier.exchange o transport bytes with
  | mk result r₁ =>
      have hl₁ : r₁.link? k = some l := by
        have hstations := stations_via r fun o => Carrier.exchange o transport bytes
        rw [hexchange] at hstations
        exact (link?_of_stations hstations k).trans hl
      rw [hexchange] at hcall
      cases result with
      | error fault => cases hcall
      | ok line =>
          dsimp only at hcall
          cases line with
          | none =>
              simp only [Option.isSome_none, Bool.false_eq_true, ↓reduceIte, accept, hl₁, Link.accept,
                Except.mapError, Prod.mk.injEq, Except.ok.injEq, reduceCtorEq, false_and] at hcall
          | some line =>
              have hsent := change_eq hl₁ fun l => (l.countSent, [])
              have hl₂ := link?_setLink hl₁ l.countSent
              simp only [Option.isSome_some, ↓reduceIte, hsent, perform_nil, accept, hl₂,
                Link.accept] at hcall
              cases hdecode : l.countSent.codec.decode (.bytes line) with
              | message m' =>
                  rw [hdecode] at hcall
                  cases hcall
                  exact ⟨⟨l.countSent.countReceived, link?_setLink hl₂ _, hchannel, hlimit⟩, line, r₁, rfl,
                    ⟨l.codec, hlimit, hdecode⟩, rfl, rfl⟩
              | dropped reason =>
                  rw [hdecode] at hcall
                  cases hcall
              | failed reason =>
                  rw [hdecode] at hcall
                  cases hcall

/-- The bytes that a socket has taken, as far as they are entered in the journals. -/
def accepted (r : Rig (Lan τ) τ) (id : Nat) : List UInt8 :=
  r.journal.toList.flatMap (Entry.accepted id) ++
    r.outside.net.journal.toList.flatMap (WireEntry.accepted id)

/-- A call that runs a transport leaves the transport and the network as the run leaves them, except that
the entries go over to the rig. -/
theorem via_of_run {α : Type} {r r₁ : Rig (Lan τ) τ} {call : Lan τ → α × Lan τ} {result result₁ : α}
    {transport : Nat} {t t' : Tcp τ} {n' : Network τ} [Zero τ] [Add τ] [Sub τ] [LE τ] [DecidableLE τ]
    (ht : r.outside.transports[transport]? = some t)
    (hcall : call r.outside = (result, ⟨n', r.outside.transports.setIfInBounds transport t'⟩))
    (hvia : r.via call = (result₁, r₁)) :
    result₁ = result ∧ r₁.outside.transports[transport]? = some t' ∧
      (∀ id, r₁.outside.net.incoming id = n'.incoming id) ∧
      ∀ id entries, r.outside.net.Adds n' entries →
        r₁.accepted id = r.accepted id ++ entries.flatMap (WireEntry.accepted id) := by
  rw [via, hcall] at hvia
  obtain ⟨rfl, rfl⟩ := Prod.mk.inj hvia
  refine ⟨rfl, ?_, fun _ => rfl, ?_⟩
  · exact Array.getElem?_setIfInBounds_self_of_lt (Array.getElem?_eq_some_iff.mp ht).1
  · intro id entries hadds
    have hjournal : n'.journal.toList = r.outside.net.journal.toList ++ entries := hadds
    have hentries := flatMap_accepted_entry id n'.journal.toList
    rw [hjournal] at hentries
    simp only [accepted, Array.toList_appendList, List.flatMap_append, hentries, List.flatMap_nil,
      List.append_nil, hjournal, List.append_assoc]

end Rig

end

variable {τ : Type} [Zero τ] [Add τ] [Sub τ] [LE τ] [DecidableLE τ]

/-- A connection of link `k` over a transport and its socket `id`, from the opening on, with the requests
that were made and their replies, and the bytes that have arrived. -/
inductive Dialogue (k transport id : Nat) : Rig (Lan τ) τ → List (Message × Message) → List UInt8 → Prop
  | opened {r₀ r₁ r : Rig (Lan τ) τ} {t t' : Tcp τ} (ht : r₀.outside.transports[transport]? = some t)
      (hidle : t.connected = false) (hlimit : t.lineLimit.value = defaultLineLimit)
      (hopen : (r₀.via fun o => Carrier.connect o transport) = (.ok true, r₁))
      (ht' : r₁.outside.transports[transport]? = some t') (hid : t'.socket = some id)
      (houtside : r.outside = r₁.outside) (hspeaks : r.Speaks k transport) (hfresh : r.accepted id = []) :
      Dialogue k transport id r [] (r.outside.net.incoming id)
  /-- Anything else happens that leaves the connection alone; more may arrive, and time may pass. -/
  | elsewhere {r r' : Rig (Lan τ) τ} {xs : List (Message × Message)} {arrived : List UInt8}
      (h : Dialogue k transport id r xs arrived) (more : List UInt8) (hspeaks : r'.Speaks k transport)
      (ht : r'.outside.transports[transport]? = r.outside.transports[transport]?)
      (hmore : r'.outside.net.incoming id = r.outside.net.incoming id ++ more)
      (hsame : r'.accepted id = r.accepted id) : Dialogue k transport id r' xs (arrived ++ more)
  | request {r r' : Rig (Lan τ) τ} {xs : List (Message × Message)} {arrived : List UInt8}
      (h : Dialogue k transport id r xs arrived) {m reply : Message} (hfits : m.HeaderFits)
      (hcall : r.request k m = (.ok (some reply), r')) :
      Dialogue k transport id r' (xs ++ [(m, reply)]) arrived

namespace Dialogue

variable {k transport id : Nat} {r : Rig (Lan τ) τ} {xs : List (Message × Message)} {arrived : List UInt8}

/-- The dialogue as its connection has it. -/
structure Kept (k transport id : Nat) (r : Rig (Lan τ) τ) (xs : List (Message × Message))
    (arrived : List UInt8) (t : Tcp τ) (account : Account) : Prop where
  speaks : r.Speaks k transport
  slot : r.outside.transports[transport]? = some t
  limit : t.lineLimit.value = defaultLineLimit
  balances : account.Balances id t r.outside.net
  arrived : account.arrived = arrived
  accepted : account.accepted = r.accepted id
  replied : account.Replied xs

/-- A request that is answered is one exchange on the connection. -/
theorem Kept.request {r' : Rig (Lan τ) τ} {t : Tcp τ} {account : Account}
    (h : Kept k transport id r xs arrived t account) {m reply : Message} (hfits : m.HeaderFits)
    (hcall : r.request k m = (.ok (some reply), r')) :
    ∃ t' account', Kept k transport id r' (xs ++ [(m, reply)]) arrived t' account' := by
  obtain ⟨hspeaks, line, r₁, hexchange, hread, houtside, hjournal⟩ :=
    Rig.request_eq_some h.speaks (Message.lineBytes_of_headerFits hfits) hcall
  cases hwire : t.exchange r.outside.net (m.body ++ lineEnd) with
  | mk line' rest =>
      obtain ⟨t', n'⟩ := rest
      have hcall : Carrier.exchange r.outside transport (m.body ++ lineEnd) =
          (.ok line', ⟨n', r.outside.transports.setIfInBounds transport t'⟩) := by
        simp only [Carrier.exchange, Lan.via, h.slot, hwire]
      obtain ⟨hline, hslot, hincoming, haccepted⟩ := Rig.via_of_run h.slot hcall hexchange
      obtain rfl := Except.ok.inj hline
      obtain ⟨hsent, hbound, entries, hadds⟩ := Tcp.exchange_eq_some hwire
      have hbalances := (h.balances.exchange hwire).of_incoming (hincoming id)
      rw [hsent, hadds.since, ← houtside] at hbalances
      rw [← houtside] at hslot
      have hsame : r'.accepted id = r₁.accepted id := by rw [Rig.accepted, houtside, hjournal, Rig.accepted]
      rw [haccepted id entries hadds, ← h.accepted] at hsame
      exact ⟨t', _, hspeaks, hslot, hbound ▸ h.limit, hbalances, h.arrived, hsame.symm,
        h.replied.request id hfits hread⟩

theorem kept (h : Dialogue k transport id r xs arrived) :
    ∃ t account, Kept k transport id r xs arrived t account := by
  induction h with
  | @opened r₀ r₁ r t t' ht hidle hlimit hopen ht' hid houtside hspeaks hfresh =>
      cases hwire : t.connect r₀.outside.net with
      | mk result rest =>
          obtain ⟨t₁, n₁⟩ := rest
          have hcall : Carrier.connect r₀.outside transport =
              (result, ⟨n₁, r₀.outside.transports.setIfInBounds transport t₁⟩) := by
            simp only [Carrier.connect, Lan.via, ht, hwire]
          obtain ⟨rfl, hslot, hincoming, -⟩ := Rig.via_of_run ht hcall hopen
          obtain rfl := Option.some.inj (hslot.symm.trans ht')
          have hbalances := (Account.Balances.opened hidle hwire hid).of_incoming (hincoming id)
          obtain ⟨_, hconnected⟩ := Tcp.connect_spec hidle hwire
          rw [← houtside] at hslot hincoming hbalances
          rw [hincoming]
          exact ⟨t₁, _, hspeaks, hslot, hconnected ▸ hlimit, hbalances, rfl, hfresh.symm, by simp, rfl, [],
            rfl, .nil⟩
  | elsewhere _ more hspeaks ht hmore hsame ih =>
      obtain ⟨t, account, hkept⟩ := ih
      refine ⟨t, _, hspeaks, ht.trans hkept.slot, hkept.limit, hkept.balances.elsewhere hmore, ?_, ?_, ?_⟩
      · rw [hkept.arrived]
      · rw [hsame]
        exact hkept.accepted
      · exact ⟨hkept.replied.fits, hkept.replied.sends, hkept.replied.readings⟩
  | request _ hfits hcall ih =>
      obtain ⟨t, account, hkept⟩ := ih
      exact hkept.request hfits hcall

/-- A request whose outcome is a reply goes on with the dialogue. -/
theorem answered (h : Dialogue k transport id r xs arrived) {m : Message} (hfits : m.HeaderFits)
    (hreply : (r.request k m).1.toOption.join.isSome = true) :
    ∃ reply, Dialogue k transport id (r.request k m).2 (xs ++ [(m, reply)]) arrived := by
  cases hcall : r.request k m with
  | mk result r' =>
      rw [hcall] at hreply
      cases result with
      | error fault => cases hreply
      | ok outcome =>
          cases outcome with
          | none => cases hreply
          | some reply => exact ⟨reply, h.request hfits hcall⟩

theorem fits (h : Dialogue k transport id r xs arrived) : ∀ x ∈ xs, x.1.HeaderFits := by
  obtain ⟨t, account, hkept⟩ := h.kept
  exact hkept.replied.fits

/-- The socket has taken the lines of the requests, and nothing else. -/
theorem accepted (h : Dialogue k transport id r xs arrived) :
    r.accepted id = framed ((xs.map Prod.fst).map Message.body) := by
  obtain ⟨t, account, hkept⟩ := h.kept
  rw [← hkept.accepted]
  exact hkept.replied.accepted hkept.balances.delivers

/-- The lines of a front part of what has arrived are read as the replies. -/
theorem replies (h : Dialogue k transport id r xs arrived) :
    ∃ consumed, consumed <+: arrived ∧
      List.Forall₂ ReadAs (segments consumed).1 (xs.map Prod.snd) := by
  obtain ⟨t, account, hkept⟩ := h.kept
  obtain ⟨lines, hlines, hread⟩ := hkept.replied.readings
  have hlimit : 0 < t.lineLimit.value := by
    rw [hkept.limit]
    decide
  obtain ⟨consumed, harrived, hreadings, -⟩ := hkept.balances.reads hlimit
  refine ⟨consumed, ?_, ?_⟩
  · rw [← hkept.arrived, harrived]
    exact List.prefix_append _ _
  · rw [segments_of_readingsOf (hreadings.symm.trans hlines)]
    exact hread

end Dialogue

/-- Requests that were read as equal messages and answered by lines that are read as the replies: each
reply is the answer to its own request. -/
theorem answers_of_lines {xs : List (Message × Message)} {read answers : List Message}
    (hfits : ∀ x ∈ xs, x.1.HeaderFits)
    (hread : List.Forall₂ (fun m' m => m'.same m = true) read (xs.map Prod.fst))
    (hanswers : List.Forall₂ (fun m' answer => m'.reply = .ok answer) read answers)
    (hlines : List.Forall₂ ReadAs (answers.map Message.body) (xs.map Prod.snd)) :
    ∀ x ∈ xs, ∃ answer, x.1.reply = .ok answer ∧ answer.Answers x.1 ∧ x.2.same answer = true := by
  induction xs generalizing read answers with
  | nil => simp
  | cons x xs ih =>
      cases hread with
      | cons hsame hread =>
          cases hanswers with
          | @cons _ answer _ _ hreply hanswers =>
              cases hlines with
              | cons hline hlines =>
                  intro y hy
                  rcases List.mem_cons.mp hy with rfl | hy
                  · have hown := hfits y List.mem_cons_self
                    rw [Message.reply_congr hsame] at hreply
                    obtain ⟨answer', hreply', hanswer⟩ := Message.reply_of_headerFits hown
                    obtain rfl := Except.ok.inj (hreply'.symm.trans hreply)
                    exact ⟨_, hreply, hanswer, hline.same (hanswer.headerFits hown)⟩
                  · exact ih (fun y hy => hfits y (List.mem_cons_of_mem _ hy)) hread hanswers hlines y hy

/-- A link and a companion that talk over one connection, however either stream is cut on its way.  If all
requests were answered, the companion has handled these requests, in order and each of them once, and each
reply is the answer that its request deserves. -/
theorem Dialogue.agrees {k transport id : Nat} {r : Rig (Lan τ) τ} {xs : List (Message × Message)}
    {arrived carried : List UInt8} {υ : Type} (h : Dialogue k transport id r xs arrived) (c : Companion υ)
    (out : Companion.Outbox) (chunks : List Chunk) (hrunning : c.running = true)
    (hreplies : c.replies = true) (hlimit : c.codec.lineLimit.value = defaultLineLimit)
    (hpieces : ∀ chunk ∈ chunks, chunk.IsPiece)
    (hreceived : chunks.flatMap Chunk.bytes <+: r.accepted id)
    (hcarried : Conveyed out.visitor (c.since (c.serve out [] chunks).2) carried)
    (harrived : arrived <+: carried) :
    ∃ c', c.serve out [] chunks = (.ok (), c') ∧ c'.handled = c.handled + xs.length ∧
      List.Forall₂ (fun m x => m.same x.1 = true) ((c.since c').filterMap CompanionEntry.request?) xs ∧
      ∀ x ∈ xs, ∃ answer, x.1.reply = .ok answer ∧ answer.Answers x.1 ∧ x.2.same answer = true := by
  have hfits : ∀ m ∈ xs.map Prod.fst, m.HeaderFits := by simpa using h.fits
  rw [h.accepted] at hreceived
  obtain ⟨c', handled, hserve, hhandled, hcount, -, read, hanswered, hread⟩ :=
    Companion.serves hfits hrunning hreplies hlimit hpieces hreceived out
  obtain ⟨consumed, hconsumed, hlines⟩ := h.replies
  rw [hserve] at hcarried
  obtain ⟨hfeeds, hwhole⟩ := hanswered.framed_of_conveyed hcarried
  have hprefix := hconsumed.trans harrived
  have hrequests := hread.length_eq
  have hread_lines : (segments consumed).1.length = xs.length := by
    rw [hlines.length_eq, List.length_map]
  -- a reply was carried for every line that was read, so no request is left out
  have hmany : xs.length ≤ carried.count 10 := by
    have hsegments := length_segments_le consumed
    have hcounts := hprefix.sublist.count_le 10
    omega
  obtain rfl : handled = xs.map Prod.fst := by
    apply hhandled.eq_of_length_le
    rw [List.length_map]
    omega
  rw [List.length_map] at hrequests hcount
  obtain ⟨answers, rfl, hanswers⟩ := hwhole (by omega)
  have hbodies : (segments consumed).1 = answers.map Message.body := by
    have hfront := segments_prefix hprefix
    rw [segments_framed (by simpa using fun m _ => m.not_mem_body)] at hfront
    apply hfront.eq_of_length
    rw [hread_lines, List.length_map, ← hanswers.length_eq, hrequests]
  rw [hbodies] at hlines
  refine ⟨c', hserve, hcount, ?_, answers_of_lines h.fits hread hanswers hlines⟩
  rw [hanswered.requests]
  exact List.forall₂_map_right_iff.mp hread

/-- A link that is about to connect.  Its socket takes bytes and brings two replies in pieces, with a pause
and an interruption. -/
def Rig.meeting : Rig (Lan Int) Int where
  outside := { net := { clock := 0, coming := [{
    arrivals := [.data (asciiBytes "05 00 20 04 00 00 00 0E 40 3F 7E ".toList), .pause 1,
      .data (asciiBytes "7E 00 10 05 00 00 41 0F 00\r".toList), .interruption,
      .data (asciiBytes "\n07 00".toList), .data (asciiBytes " 20 00\r\n".toList)]
    uptakes := [.accept 3, .pause 1, .accept 10, .accept 5, .interruption] }] } }
  stations := #[⟨{
    target := .of "10.0.0.2" 7000, enabled := true, phase := .connecting, enteredAt := 0
    backoff := .start 1 2 30, health := ⟨5, 0⟩, status := ⟨0, 0⟩ }, ⟨3, 2, defaultLineLimit⟩, .log⟩]

/-- A device request and a message of one word, both answered, to a companion that receives the first of
them in two pieces. -/
theorem Dialogue.agrees_in_pieces :
    ∃ (r : Rig (Lan Int) Int) (xs : List (Message × Message)) (arrived : List UInt8) (c c' : Companion Int)
      (chunks : List Chunk), Dialogue 0 0 0 r xs arrived ∧ xs.length = 2 ∧ chunks.length = 3 ∧
      c.serve { visitor := 1, limit := none } [] chunks = (.ok (), c') ∧ c'.handled = 2 ∧
      List.Forall₂ (fun m x => m.same x.1 = true) ((c.since c').filterMap CompanionEntry.request?) xs ∧
      ∀ x ∈ xs, ∃ answer, x.1.reply = .ok answer ∧ answer.Answers x.1 ∧ x.2.same answer = true := by
  let query : Message := { command := deviceRequest, destination := 0x20 }
  let word : Message :=
    { command := 0x0C, destination := 0x20, wordCount := 1, payload := .ofList [0, 0, 0, 1] }
  let ready := (Rig.meeting.via fun o => Carrier.build o ⟨3, 2, defaultLineLimit⟩ (.of "10.0.0.2" 7000)).2
  have hopened : Dialogue 0 0 0 (Rig.meeting.update 0 id id).2 [] _ :=
    @Dialogue.opened Int _ _ _ _ _ 0 0 0 ready _ _ _ _ rfl rfl rfl rfl rfl rfl rfl ⟨_, rfl, rfl, rfl⟩ rfl
  obtain ⟨first, hfirst⟩ := hopened.answered (m := query) (by decide) (by decide +kernel)
  obtain ⟨second, hsecond⟩ := hfirst.answered (m := word) (by decide) (by decide +kernel)
  let c : Companion Int := { target := .of "10.0.0.2" 7000, running := true }
  let chunks : List Chunk := [.data (asciiBytes "01 2".toList), .timeout,
    .data (asciiBytes "0 00 00\r\n0C 20 00 01 00 00 00 01\r\n".toList)]
  have hpieces : ∀ chunk ∈ chunks, chunk.IsPiece := by
    simp only [chunks, List.forall_mem_cons, Chunk.IsPiece, List.not_mem_nil, false_imp_iff,
      implies_true]
    decide
  obtain ⟨c', hserve, hcount, hrequests, hanswers⟩ := hsecond.agrees c { visitor := 1, limit := none } chunks
    rfl rfl rfl hpieces (by decide +kernel) (conveyed_replied 1 _) (by decide +kernel)
  exact ⟨_, _, _, c, c', chunks, hsecond, rfl, rfl, hserve, hcount, hrequests, hanswers⟩

end PeripheralLink
