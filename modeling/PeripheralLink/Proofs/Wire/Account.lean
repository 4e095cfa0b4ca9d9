import PeripheralLink.Proofs.Wire.Calls
/-!
The account of one connection: what has arrived at its socket, what calls have returned and reported,
what the socket has taken, and what was to be sent.  `Account.Balances` is what the account, the
transport and the network have in common; every call keeps it.
-/

namespace PeripheralLink

/-- The account of a connection. -/
structure Account where
  arrived : List UInt8 := []
  readings : List Reading := []
  accepted : List UInt8 := []
  sends : List (List UInt8 × Bool) := []

namespace Account

variable {τ : Type}

/-- The account after a call that was to send some messages, returned a line or none, and made these
entries in the journal. -/
def after (account : Account) (id : Nat) (sends : List (List UInt8 × Bool))
    (line : Option (List UInt8)) (entries : List (WireEntry τ)) : Account where
  arrived := account.arrived
  readings := account.readings ++ readingsGiven line entries
  accepted := account.accepted ++ entries.flatMap (WireEntry.accepted id)
  sends := account.sends ++ sends

def lines (account : Account) : List (List UInt8) := account.readings.filterMap Reading.line?

/-- A call in two parts, of which the first gives no reading. -/
theorem after_append (account : Account) (id : Nat) (sends : List (List UInt8 × Bool))
    (line : Option (List UInt8)) {entries : List (WireEntry τ)} (entries' : List (WireEntry τ))
    (hfirst : entries.flatMap WireEntry.readings = []) :
    account.after id sends line (entries ++ entries') =
      (account.after id sends none entries).after id [] line entries' := by
  cases line <;> simp [after, readingsGiven, hfirst, List.append_assoc]

theorem after_quiet (account : Account) (id : Nat) {entries : List (WireEntry τ)}
    (hquiet : ∀ e ∈ entries, e.Quiet) : account.after id [] none entries = account := by
  obtain ⟨hreadings, haccepted⟩ := flatMap_of_quiet hquiet
  simp [after, readingsGiven, hreadings, haccepted]

end Account

/-- The bytes taken are those of the messages sent, in order, followed by a part of the first message
that could not be sent.  While the connection is open there is no such message. -/
def Account.Delivers (account : Account) (live : Bool) : Prop :=
  ∃ (good bad : List (List UInt8)) (piece : List UInt8),
    account.sends = good.map (·, true) ++ bad.map (·, false) ∧
    account.accepted = good.flatten ++ piece ∧
    (piece = [] ∨ ∃ bytes later, bad = bytes :: later ∧ piece <+: bytes ∧ piece ≠ bytes) ∧
    (bad ≠ [] → live = false)

namespace Account.Delivers

variable {account account' : Account} {bytes piece : List UInt8}

theorem congr {live : Bool} (h : account.Delivers live) (hsends : account'.sends = account.sends)
    (haccepted : account'.accepted = account.accepted) : account'.Delivers live := by
  rw [Account.Delivers, hsends, haccepted]
  exact h

theorem closed {live : Bool} (h : account.Delivers live) : account.Delivers false := by
  obtain ⟨good, bad, piece, hsends, haccepted, hpiece, -⟩ := h
  exact ⟨good, bad, piece, hsends, haccepted, hpiece, fun _ => rfl⟩

/-- On an open connection nothing has failed yet. -/
theorem whole (h : account.Delivers true) :
    ∃ good : List (List UInt8), account.sends = good.map (·, true) ∧ account.accepted = good.flatten := by
  obtain ⟨good, bad, piece, hsends, haccepted, hpiece, hlive⟩ := h
  have hbad : bad = [] := by
    by_contra hne
    exact absurd (hlive hne) (by simp)
  subst hbad
  have hnone : piece = [] := by simpa using hpiece
  exact ⟨good, by simpa using hsends, by simpa [hnone] using haccepted⟩

/-- Where all messages were sent, they are what the socket has taken. -/
theorem flatten {live : Bool} (h : account.Delivers live) {messages : List (List UInt8)}
    (hsends : account.sends = messages.map (·, true)) : account.accepted = messages.flatten := by
  obtain ⟨good, bad, piece, hall, haccepted, hpiece, -⟩ := h
  have hbad : bad = [] := by
    by_contra hne
    obtain ⟨bytes, hbytes⟩ := List.exists_mem_of_ne_nil bad hne
    have hfailed : (bytes, false) ∈ messages.map (·, true) := by
      rw [← hsends, hall]
      exact List.mem_append_right _ (List.mem_map_of_mem hbytes)
    simp at hfailed
  subst hbad
  have hnone : piece = [] := by simpa using hpiece
  have hgood : good = messages := by
    rw [hsends, List.map_nil, List.append_nil] at hall
    exact ((List.map_inj_right fun _ _ h => (Prod.mk.inj h).1).mp hall).symm
  rw [haccepted, hnone, hgood, List.append_nil]

theorem done (h : account.Delivers true) (hsends : account'.sends = account.sends ++ [(bytes, true)])
    (haccepted : account'.accepted = account.accepted ++ bytes) : account'.Delivers true := by
  obtain ⟨good, hgood, hflat⟩ := h.whole
  refine ⟨good ++ [bytes], [], [], ?_, ?_, .inl rfl, by simp⟩
  · simp [hsends, hgood]
  · simp [haccepted, hflat]

/-- The message whose sending breaks the connection. -/
theorem broken (h : account.Delivers true)
    (hsends : account'.sends = account.sends ++ [(bytes, false)])
    (haccepted : account'.accepted = account.accepted ++ piece) (hfront : piece <+: bytes)
    (hpart : piece ≠ bytes) : account'.Delivers false := by
  obtain ⟨good, hgood, hflat⟩ := h.whole
  refine ⟨good, [bytes], piece, ?_, ?_, .inr ⟨bytes, [], rfl, hfront, hpart⟩, fun _ => rfl⟩
  · simp [hsends, hgood]
  · rw [haccepted, hflat]

/-- A message that finds the connection closed. -/
theorem refused {live : Bool} (h : account.Delivers live) (hlive : live = false)
    (hsends : account'.sends = account.sends ++ [(bytes, false)])
    (haccepted : account'.accepted = account.accepted) : account'.Delivers live := by
  obtain ⟨good, bad, piece, hbefore, hflat, hpiece, -⟩ := h
  refine ⟨good, bad ++ [bytes], piece, ?_, haccepted.trans hflat, ?_, fun _ => hlive⟩
  · simp [hsends, hbefore]
  · rcases hpiece with hnone | ⟨first, later, rfl, hfront, hpart⟩
    · exact .inl hnone
    · exact .inr ⟨first, later ++ [bytes], rfl, hfront, hpart⟩

end Account.Delivers

/-- What an account, a transport and its network have in common: an open transport is on the socket;
what has arrived is what was consumed and what is still arriving; the readings are those of what was
consumed, of which an open transport holds the tail; and what was taken is delivered. -/
structure Account.Balances {τ : Type} (account : Account) (id : Nat) (t : Tcp τ) (n : Network τ) :
    Prop where
  attached : t.connected = true → t.socket = some id
  reads : 0 < t.lineLimit.value → ∃ consumed, account.arrived = consumed ++ n.incoming id ∧
    account.readings = readingsOf t.lineLimit.value consumed ∧
      (t.connected = true → t.buffer.Holds t.lineLimit.value (segments consumed).2)
  delivers : account.Delivers t.connected

namespace Account.Balances

section

variable {τ : Type} {account : Account} {id : Nat} {t t' : Tcp τ} {n n' : Network τ}

theorem open?_cases (h : account.Balances id t n) :
    t.connected = true ∧ t.open? = some id ∨ t.connected = false ∧ t.open? = none := by
  cases hconnected : t.connected with
  | true => exact .inl ⟨rfl, by simp [Tcp.open?, hconnected, h.attached hconnected]⟩
  | false => exact .inr ⟨rfl, by simp [Tcp.open?, hconnected]⟩

theorem opened (hidle : t.connected = false) (hopen : t.connect n = (.ok true, t', n'))
    (hid : t'.socket = some id) : Account.Balances { arrived := n'.incoming id } id t' n' := by
  obtain ⟨_, rfl⟩ := Tcp.connect_spec hidle hopen
  refine ⟨fun _ => hid, ?_, [], [], [], rfl, rfl, .inl rfl, by simp⟩
  intro hlimit
  exact ⟨[], rfl, (readingsOf_nil hlimit).symm, fun _ => .empty hlimit⟩

theorem elsewhere (h : account.Balances id t n) {more : List UInt8}
    (hmore : n'.incoming id = n.incoming id ++ more) :
    Account.Balances { account with arrived := account.arrived ++ more } id t n' where
  attached := h.attached
  reads hlimit := by
    obtain ⟨consumed, harrived, hrest⟩ := h.reads hlimit
    exact ⟨consumed, by simp [harrived, hmore], hrest⟩
  delivers := h.delivers

/-- Of the network, only what is arriving counts. -/
theorem of_incoming (h : account.Balances id t n) (hincoming : n'.incoming id = n.incoming id) :
    account.Balances id t n' :=
  ⟨h.attached, hincoming ▸ h.reads, h.delivers⟩

/-- A call that neither takes nor sends anything, and may close the connection. -/
theorem quiet (h : account.Balances id t n) (hincoming : n'.incoming id = n.incoming id)
    (hquiet : n.Quietly n') (ht : t' = t ∨ t' = t.idle) :
    (account.after id [] none (n.since n')).Balances id t' n' := by
  obtain ⟨entries, hadds, hentries⟩ := hquiet
  rw [hadds.since, account.after_quiet id hentries]
  rcases ht with rfl | rfl
  · exact h.of_incoming hincoming
  · refine ⟨nofun, ?_, h.delivers.closed⟩
    intro hlimit
    obtain ⟨consumed, harrived, hreadings, -⟩ := h.reads hlimit
    exact ⟨consumed, hincoming ▸ harrived, hreadings, nofun⟩

theorem probe (h : account.Balances id t n) {alive : Bool} (hcall : t.probe n = (alive, t', n')) :
    (account.after id [] none (n.since n')).Balances id t' n' := by
  rcases h.open?_cases with ⟨-, hopen⟩ | ⟨-, hopen⟩
  · obtain ⟨hincoming, hquiet, ht⟩ := Tcp.probe_spec hopen hcall
    refine h.quiet hincoming hquiet ?_
    cases alive with
    | true => exact .inl ht
    | false => exact .inr ht
  · simp only [Tcp.probe, hopen, Prod.mk.injEq] at hcall
    obtain ⟨-, rfl, rfl⟩ := hcall
    exact h.quiet rfl (.of_journal rfl) (.inl rfl)

theorem disconnect (h : account.Balances id t n) :
    (account.after id [] none (n.since (t.disconnect n).2)).Balances id (t.disconnect n).1
      (t.disconnect n).2 :=
  have hcloses := t.disconnect_spec n
  h.quiet (hcloses.incoming id) hcloses.quietly (.inr hcloses.idle)

end

variable {τ : Type} [Zero τ] [Add τ] [Sub τ] [LE τ] [DecidableLE τ] {account : Account} {id : Nat}
  {t t' : Tcp τ} {n n' : Network τ}

theorem send (h : account.Balances id t n) {bytes : List UInt8} {done : Bool}
    (hcall : t.send n bytes = (done, t', n')) :
    (account.after id [(bytes, done)] none (n.since n')).Balances id t' n' := by
  rcases h.open?_cases with ⟨hconnected, hopen⟩ | ⟨hconnected, hopen⟩
  · obtain ⟨hincoming, ht, entries, hadds, hreadings, hfront, hall⟩ := Tcp.send_spec hopen hcall
    rw [hadds.since]
    have hread : (account.after id [(bytes, done)] none entries).readings = account.readings := by
      simp [Account.after, readingsGiven, hreadings]
    have hdelivers := hconnected ▸ h.delivers
    cases done with
    | true =>
        obtain rfl : t' = t := ht
        refine ⟨h.attached, ?_, ?_⟩
        · rw [hincoming, hread]
          exact h.reads
        · rw [hconnected]
          exact hdelivers.done rfl (by rw [← hall.mp rfl]; rfl)
    | false =>
        obtain rfl : t' = t.idle := ht
        refine ⟨nofun, ?_, hdelivers.broken rfl rfl hfront (by simpa using hall)⟩
        intro hlimit
        obtain ⟨consumed, harrived, hbefore, -⟩ := h.reads hlimit
        exact ⟨consumed, hincoming ▸ harrived, hread.trans hbefore, nofun⟩
  · simp only [Tcp.send, hopen, Prod.mk.injEq] at hcall
    obtain ⟨rfl, rfl, rfl⟩ := hcall
    rw [Network.since_self]
    refine ⟨h.attached, ?_, h.delivers.refused hconnected rfl ?_⟩
    · simpa [Account.after, readingsGiven] using h.reads
    · simp [Account.after]

theorem receive (h : account.Balances id t n) {line : Option (List UInt8)}
    (hcall : t.receive n = (line, t', n')) :
    (account.after id [] line (n.since n')).Balances id t' n' := by
  rcases h.open?_cases with ⟨hconnected, hopen⟩ | ⟨hconnected, hopen⟩
  · obtain ⟨taken, buffer, entries, hfront, habsorb, hadds, haccepted, ht⟩ :=
      Tcp.receive_spec hopen hcall
    rw [hadds.since]
    refine ⟨?_, ?_, ?_⟩
    · rcases ht with rfl | rfl
      · exact h.attached
      · exact nofun
    · intro hlimit
      have hsame : t'.lineLimit = t.lineLimit := by rcases ht with rfl | rfl <;> rfl
      rw [hsame] at hlimit ⊢
      obtain ⟨consumed, harrived, hreadings, hholds⟩ := h.reads hlimit
      obtain ⟨hnext, hmore⟩ := (hholds hconnected).absorb hlimit taken
      rw [habsorb] at hnext hmore
      refine ⟨consumed ++ taken, ?_, ?_, ?_⟩
      · rw [List.append_assoc, ← hfront]
        exact harrived
      · rw [hmore, ← hreadings]
        rfl
      · intro hstill
        rcases ht with rfl | rfl
        · exact hnext
        · exact absurd hstill nofun
    · have hsame : (account.after id [] line entries).Delivers t.connected :=
        h.delivers.congr (by simp [Account.after]) (by simp [Account.after, haccepted])
      rcases ht with rfl | rfl
      · exact hsame
      · exact hsame.closed
  · simp only [Tcp.receive, hopen, Prod.mk.injEq] at hcall
    obtain ⟨rfl, rfl, rfl⟩ := hcall
    exact h.quiet rfl (.of_journal rfl) (.inl rfl)

theorem exchange (h : account.Balances id t n) {bytes : List UInt8} {line : Option (List UInt8)}
    (hcall : t.exchange n bytes = (line, t', n')) :
    (account.after id [(bytes, (t.send n bytes).1)] line (n.since n')).Balances id t' n' := by
  cases hsend : t.send n bytes with
  | mk done rest =>
      obtain ⟨t₁, n₁⟩ := rest
      have hsent := h.send hsend
      rw [Tcp.exchange, hsend] at hcall
      cases done with
      | true =>
          have hreceived := hsent.receive hcall
          obtain ⟨_, hadds, hnone⟩ := Tcp.adds_send hsend
          obtain ⟨_, hadds'⟩ := Tcp.adds_receive hcall
          rw [← hadds.since] at hnone
          rw [Network.since_trans hadds hadds', Account.after_append _ _ _ _ _ hnone]
          exact hreceived
      | false =>
          cases hcall
          exact hsent

end Account.Balances

end PeripheralLink
