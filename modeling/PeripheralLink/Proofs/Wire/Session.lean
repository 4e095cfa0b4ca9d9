import Mathlib.Algebra.Ring.Int.Defs
import PeripheralLink.Proofs.Wire.Account
/-!
One connection of a transport, from its opening on.  A session is any run of calls on it, with anything
that may happen on the network between them, and it keeps an account of what has gone in and out.

There are two main statements.  `Session.readings_of_consumed` says that the bytes consumed so far have given exactly
their readings, and `Session.accepted_in_order` that the bytes taken so far are whole messages in order, up to
a part of one that closed the connection.
-/

namespace PeripheralLink

variable {τ : Type} [Zero τ] [Add τ] [Sub τ] [LE τ] [DecidableLE τ]

/-- A connection over the socket `id`, with its account. -/
inductive Session (id : Nat) : Tcp τ → Network τ → Account → Prop
  | opened {t t' : Tcp τ} {n n' : Network τ} (hidle : t.connected = false)
      (hopen : t.connect n = (.ok true, t', n')) (hid : t'.socket = some id) :
      Session id t' n' { arrived := n'.incoming id }
  /-- Anything happens on the network: more may arrive at the socket, but nothing that is arriving is
  lost. -/
  | elsewhere {t : Tcp τ} {n n' : Network τ} {account : Account} (h : Session id t n account)
      (more : List UInt8) (hmore : n'.incoming id = n.incoming id ++ more) :
      Session id t n' { account with arrived := account.arrived ++ more }
  | probe {t t' : Tcp τ} {n n' : Network τ} {account : Account} {alive : Bool}
      (h : Session id t n account) (hcall : t.probe n = (alive, t', n')) :
      Session id t' n' (account.after id [] none (n.since n'))
  | receive {t t' : Tcp τ} {n n' : Network τ} {account : Account} {line : Option (List UInt8)}
      (h : Session id t n account) (hcall : t.receive n = (line, t', n')) :
      Session id t' n' (account.after id [] line (n.since n'))
  | send {t t' : Tcp τ} {n n' : Network τ} {account : Account} {done : Bool}
      (h : Session id t n account) (bytes : List UInt8) (hcall : t.send n bytes = (done, t', n')) :
      Session id t' n' (account.after id [(bytes, done)] none (n.since n'))
  | exchange {t t' : Tcp τ} {n n' : Network τ} {account : Account} {line : Option (List UInt8)}
      (h : Session id t n account) (bytes : List UInt8)
      (hcall : t.exchange n bytes = (line, t', n')) :
      Session id t' n' (account.after id [(bytes, (t.send n bytes).1)] line (n.since n'))
  | disconnect {t : Tcp τ} {n : Network τ} {account : Account} (h : Session id t n account) :
      Session id (t.disconnect n).1 (t.disconnect n).2
        (account.after id [] none (n.since (t.disconnect n).2))

namespace Session

variable {id : Nat} {t t' : Tcp τ} {n n' : Network τ} {account : Account}

/-- Every call keeps the balance of the account. -/
theorem balances (h : Session id t n account) : account.Balances id t n := by
  induction h with
  | opened hidle hopen hid => exact .opened hidle hopen hid
  | elsewhere _ more hmore ih => exact ih.elsewhere hmore
  | probe _ hcall ih => exact ih.probe hcall
  | receive _ hcall ih => exact ih.receive hcall
  | send _ bytes hcall ih => exact ih.send hcall
  | exchange _ bytes hcall ih => exact ih.exchange hcall
  | disconnect _ ih => exact ih.disconnect

/-- However the bytes come in, what calls have returned and reported are the readings of the bytes
consumed: the lines are the segments that fit into the bound with their line end, and each segment that
does not has been reported once, the unfinished tail as soon as it is too long.  A probe that finds
the peer alive consumes nothing and leaves the transport as it is. -/
theorem readings_of_consumed (h : Session id t n account) (hlimit : 0 < t.lineLimit.value) :
    ∃ consumed, account.arrived = consumed ++ n.incoming id ∧
      account.readings = readingsOf t.lineLimit.value consumed ∧
      account.lines = (segments consumed).1.filter (fun s => s.length + 2 ≤ t.lineLimit.value) ∧
      ∀ t' n', t.probe n = (true, t', n') → t' = t ∧ n'.incoming id = n.incoming id := by
  obtain ⟨consumed, harrived, hreadings, -⟩ := h.balances.reads hlimit
  refine ⟨consumed, harrived, hreadings, ?_, ?_⟩
  · rw [Account.lines, hreadings, lines_readingsOf]
  · intro t' n' hprobe
    rcases h.balances.open?_cases with ⟨-, hopen⟩ | ⟨-, hopen⟩
    · obtain ⟨hincoming, -, ht⟩ := Tcp.probe_spec hopen hprobe
      exact ⟨ht, hincoming⟩
    · simp [Tcp.probe, hopen] at hprobe

/-- A line end that a deadline cuts in two, and a line after it that is too long. -/
theorem readings_of_split_line_end :
    ∃ (t : Tcp Int) (n : Network Int) (account : Account), Session 0 t n account ∧
      t.connected = true ∧ account.readings = [.line [65], .overflow] ∧ account.lines = [[65]] ∧
      n.incoming 0 = [70] ∧ ∃ consumed, account.readings = readingsOf 4 consumed ∧ consumed.length = 7 := by
  have hopened := @Session.opened Int _ _ _ _ _ 0
    ⟨⟨.text "10.0.0.2", .int 7000⟩, 3, 1, ⟨4, false⟩, none, false, {}⟩ _
    { clock := 0, coming := [{ arrivals := [.data [65, 13], .pause 2, .data [10, 66, 67],
      .interruption, .data [68, 69, 70]] }] } _ rfl rfl rfl
  have hread := ((hopened.receive rfl).receive rfl).receive rfl
  obtain ⟨consumed, harrived, hreadings, -⟩ := hread.readings_of_consumed (by decide)
  have hlength : 8 = (consumed ++ [70]).length := congrArg List.length harrived
  exact ⟨_, _, _, hread, rfl, rfl, rfl, rfl, consumed, hreadings, by simpa using hlength.symm⟩

/-- Whatever the socket takes, the bytes taken over the connection are those of the messages that were
sent, in order, followed by a part of at most one message that was not.  Once one has failed the
connection is closed; one that succeeds leaves it open. -/
theorem accepted_in_order (h : Session id t n account) :
    (∃ (good bad : List (List UInt8)) (piece : List UInt8),
      account.sends = good.map (·, true) ++ bad.map (·, false) ∧
      account.accepted = good.flatten ++ piece ∧
      (piece = [] ∨ ∃ bytes later, bad = bytes :: later ∧ piece <+: bytes ∧ piece ≠ bytes) ∧
      (bad ≠ [] → t.connected = false)) ∧
    ∀ bytes done t' n', t.send n bytes = (done, t', n') → t'.connected = done := by
  refine ⟨h.balances.delivers, ?_⟩
  intro bytes done t' n' hsend
  rcases h.balances.open?_cases with ⟨hconnected, hopen⟩ | ⟨hconnected, hopen⟩
  · obtain ⟨-, rfl, -⟩ := Tcp.send_spec hopen hsend
    cases done with
    | true => exact hconnected
    | false => rfl
  · simp only [Tcp.send, hopen, Prod.mk.injEq] at hsend
    obtain ⟨rfl, rfl, -⟩ := hsend
    exact hconnected

/-- A message that is taken in parts, and one whose second part meets a closed peer. -/
theorem accepted_of_closed_peer :
    ∃ (t : Tcp Int) (n : Network Int) (account : Account), Session 0 t n account ∧
      account.sends = [([65, 66], true), ([67, 68], false), ([69], false)] ∧
      account.accepted = [65, 66, 67] ∧ t.connected = false ∧
      ∀ bytes, (t.send n bytes).1 = false := by
  have hopened := @Session.opened Int _ _ _ _ _ 0
    ⟨⟨.text "10.0.0.2", .int 7000⟩, 3, 1, ⟨4, false⟩, none, false, {}⟩ _
    { clock := 0, coming := [{ uptakes := [.accept 1, .pause 1, .accept 1, .accept 1,
      .accept 0] }] } _ rfl rfl rfl
  have hsent := ((hopened.send [65, 66] rfl).send [67, 68] rfl).send [69] rfl
  obtain ⟨-, hlater⟩ := hsent.accepted_in_order
  refine ⟨_, _, _, hsent, rfl, rfl, rfl, ?_⟩
  intro bytes
  exact (hlater bytes _ _ _ rfl).symm

end Session

end PeripheralLink
