import PeripheralLink.Proofs.Rig.Posted
import PeripheralLink.Proofs.Rig.Traffic
/-!
What of a link's messages reaches the sockets, and what is counted of it.  The posts of a run are those of its
errands: `Traffic.posted`.

The main statement is `Traffic.delivered`, which sets the lines that were taken against the count of messages
sent: a request whose line was taken is not counted unless it is answered.
-/

namespace PeripheralLink

theorem filterMap_middle {α β : Type} (f : α → Option β) (before after : List α) (x : α) :
    (before ++ x :: after).filterMap f = before.filterMap f ++ ((f x).toList ++ after.filterMap f) := by
  rw [List.filterMap_append, List.filterMap_cons]
  cases f x <;> rfl

def Use.message? : Use → Option Message
  | send m => some m
  | receive => none
  | request m => some m

namespace Errand

variable {τ : Type}

/-- The message that it was to send has been sent or not, which is still to be counted. -/
def waits (e : Errand (Lan τ) τ) : Bool :=
  match e.stage with
  | .tried _ delivered => delivered
  | _ => false

variable [Zero τ] [Add τ] [Sub τ] [LE τ] [DecidableLE τ]

/-- The message that it has posted, if any, with the socket that has taken its line. -/
def post? (e : Errand (Lan τ) τ) : Option (Nat × Message) :=
  match e.use.message?, e.called with
  | some m, some (r, id, bytes) => (r.takenBy id bytes).map (·, m)
  | _, _ => none

/-- It has posted a request, and no line has come back. -/
def unanswered (e : Errand (Lan τ) τ) : Bool :=
  match e.use with
  | .request _ => e.post?.isSome && !e.answered
  | _ => false

/-- A line has come back to it, or it has returned success. -/
def bears (e : Errand (Lan τ) τ) : Bool :=
  match e.stage with
  | .exchanged line => line.isSome
  | .received line => line.isSome
  | stage => stage.result? = some true

/-- A request succeeds only if it is answered. -/
def Heard (e : Errand (Lan τ) τ) : Prop := ∀ m, e.use = .request m → e.bears = true → e.answered = true

/-- A message that was to be sent, and no more, is posted exactly if it is reported as sent or is about to be. -/
def Told (e : Errand (Lan τ) τ) : Prop := ∀ m, e.use = .send m → e.post?.isSome = (e.sent || e.waits)

variable {k : Nat} {r : Rig (Lan τ) τ} {e : Errand (Lan τ) τ} {l : Link τ}

/-- What an errand posts when it calls its transport. -/
theorem post?_given {u : Use} {made : Rig (Lan τ) τ} {called : Option (Rig (Lan τ) τ × Nat × List UInt8)}
    {m : Message} (hmessage : u.message? = some m) (id : Nat) (bytes : List UInt8) :
    (Errand.proceed ⟨u, made, called, .given id bytes⟩ k r).post? = (r.takenBy id bytes).map (·, m) := by
  simp only [post?, Errand.proceed, hmessage]

/-- Only by calling its transport does an errand post anything. -/
theorem post?_proceed (hstage : ∀ id bytes, e.stage ≠ .given id bytes) : (e.proceed k r).post? = e.post? := by
  have hcalled : (e.proceed k r).called = e.called := by
    unfold Errand.proceed
    split
    · rename_i id bytes heq
      exact absurd heq (hstage id bytes)
    · rfl
  rw [post?, hcalled, post?]
  rfl

theorem post?_of_uncalled (hcalled : e.called = none) : e.post? = none := by
  unfold post?
  rw [hcalled]
  cases e.use.message? <;> rfl

/-- A line that has come back is the answer to a message that was posted. -/
theorem isSome_post?_of_answered {m : Message} (huse : e.use = .request m) (h : e.answered = true) :
    e.post?.isSome = true := by
  unfold answered at h
  cases hcalled : e.called with
  | none => simp [hcalled] at h
  | some call =>
      obtain ⟨r, id, bytes⟩ := call
      simp only [hcalled] at h
      simp only [post?, huse, Use.message?, hcalled, Option.isSome_map, Rig.isSome_takenBy]
      split at h
      · rename_i line heq
        obtain ⟨answer, rfl⟩ := Option.isSome_iff_exists.mp h
        exact Lan.sends_of_exchange heq
      · cases h

theorem told_start (hl : r.link? k = some l) (howns : l.phase = .connected → l.transport.isSome = true) (u : Use) :
    (start r k u).Told := by
  intro m _
  obtain ⟨-, -, hsent, -⟩ := start_blank hl howns u
  have hstage : (start r k u).stage = (r.enter k u).1 := rfl
  rw [hsent, post?_of_uncalled rfl, waits]
  rcases Rig.enter_cases hl howns u with
    ⟨-, henter⟩ | ⟨-, ⟨id, bytes, -, henter⟩ | ⟨error, -, henter⟩ | ⟨error, -, henter⟩⟩ <;>
    rw [henter] at hstage <;> rw [hstage] <;> rfl

theorem told_proceed (h : e.Told) (hsound : e.Sound k) : (e.proceed k r).Told := by
  obtain ⟨u, made, called, stage⟩ := e
  rintro m rfl
  have htold := h m rfl
  cases stage with
  | unwritten =>
      obtain ⟨-, hcalled, -⟩ := hsound
      rw [post?_proceed (by nofun), post?_of_uncalled hcalled]
      rfl
  | given id bytes =>
      rw [post?_given rfl, Option.isSome_map, Rig.isSome_takenBy]
      exact (Bool.false_or _).symm
  | tried m' delivered =>
      rw [post?_proceed (by nofun), htold]
      cases delivered <;> rfl
  | exchanged line =>
      obtain ⟨-, ⟨_, huse⟩, -⟩ := hsound
      cases huse
  | received line =>
      obtain ⟨-, hawaits, -⟩ := hsound
      cases hawaits
  | returned result => exact htold

theorem heard_start (hl : r.link? k = some l) (howns : l.phase = .connected → l.transport.isSome = true) (u : Use) :
    (start r k u).Heard := by
  intro m _ hbears
  have hstage : (start r k u).stage = (r.enter k u).1 := rfl
  rw [bears] at hbears
  rcases Rig.enter_cases hl howns u with
    ⟨-, henter⟩ | ⟨-, ⟨id, bytes, -, henter⟩ | ⟨error, -, henter⟩ | ⟨error, -, henter⟩⟩ <;>
    rw [henter] at hstage <;> rw [hstage] at hbears <;> cases hbears

theorem heard_proceed (h : e.Heard) (hsound : e.Sound k) (hl : r.link? k = some l) : (e.proceed k r).Heard := by
  obtain ⟨u, made, called, stage⟩ := e
  rintro m rfl hbears
  have hheard := h m rfl
  cases stage with
  | unwritten => cases hbears
  | tried m' delivered =>
      obtain ⟨-, huse⟩ := hsound
      cases huse
  | exchanged line => exact hheard hbears
  | returned result => exact hheard hbears
  | given id bytes =>
      simp only [bears, answered, Errand.proceed, Rig.proceed] at hbears ⊢
      rcases hexchange : r.via fun o => Carrier.exchange o id bytes with ⟨fault | line, r'⟩ <;>
        rw [hexchange] at hbears
      · cases hbears
      · exact hbears
  | received line =>
      cases line with
      | none =>
          simp only [bears, Errand.proceed, Rig.proceed, Rig.accept, hl, Link.accept] at hbears
          cases hbears
      | some line => exact hheard rfl

/-- Only a message that was to be sent, and no more, waits to be counted with what its sending came to. -/
theorem waits_eq_false (hsound : e.Sound k) (huse : ∀ m, e.use ≠ .send m) : e.waits = false := by
  obtain ⟨u, made, called, stage⟩ := e
  cases stage with
  | tried m delivered => exact absurd hsound.2 (huse m)
  | _ => rfl

/-- A message that has been posted has been sent, is still to be counted, or is an unanswered request. -/
theorem toNat_posted (h : e.Told) (hsound : e.Sound k) :
    e.post?.isSome.toNat = e.sent.toNat + e.waits.toNat + e.unanswered.toNat := by
  cases huse : e.use with
  | send m =>
      have hsingle : (e.sent && e.waits) = false := by
        unfold waits sent
        rw [huse]
        cases e.stage <;> simp [Use.Stage.result?]
      have hanswer : e.unanswered = false := by rw [unanswered, huse]
      rw [h m huse, hanswer]
      cases hsent : e.sent <;> simp [hsent] at hsingle ⊢
      simp [hsingle]
  | receive =>
      have hpost : e.post? = none := by rw [post?, huse]; rfl
      have hsent : e.sent = false := by rw [sent, huse]
      have hanswer : e.unanswered = false := by rw [unanswered, huse]
      rw [hpost, hsent, hanswer, waits_eq_false hsound (by simp [huse])]
      rfl
  | request m =>
      have hsent : e.sent = e.answered := by rw [sent, huse]
      have hanswer : e.unanswered = (e.post?.isSome && !e.answered) := by rw [unanswered, huse]
      rw [hsent, hanswer, waits_eq_false hsound (by simp [huse])]
      cases hanswered : e.answered with
      | true => rw [isSome_post?_of_answered huse hanswered]; rfl
      | false => simp

/-- The posts of some errands, by what has become of them. -/
theorem length_posts {errands : List (Errand (Lan τ) τ)} (h : ∀ e ∈ errands, e.Sound k ∧ e.Told) :
    (errands.filterMap post?).length =
      errands.countP sent + errands.countP waits + errands.countP unanswered := by
  induction errands with
  | nil => rfl
  | cons e errands ih =>
      have hrest := ih fun e he => h e (List.mem_cons_of_mem _ he)
      obtain ⟨hsound, htold⟩ := h e List.mem_cons_self
      have hfirst := toNat_posted htold hsound
      have hcount (p : Errand (Lan τ) τ → Bool) : (e :: errands).countP p = errands.countP p + (p e).toNat := by
        rw [List.countP_cons]
        cases p e <;> rfl
      have hlength : ((e :: errands).filterMap post?).length =
          (errands.filterMap post?).length + e.post?.isSome.toNat := by
        cases hpost : e.post? <;> simp [hpost]
      rw [hlength, hcount, hcount, hcount]
      omega

end Errand

namespace Rig

variable {τ : Type} [Zero τ] [Add τ] [Sub τ] [LE τ] [DecidableLE τ]

/-- What may happen to a network with one link on it between two holds of the link's lock: the parts of an update
that build and connect a transport, and anything that leaves the link, the transports and what the sockets have
taken as they are, such as bytes arriving and time passing. -/
inductive Meanwhile (k : Nat) : Rig (Lan τ) τ → Rig (Lan τ) τ → Prop
  | around {r r' : Rig (Lan τ) τ} (hlink : r'.link? k = r.link? k)
      (htransports : r'.outside.transports = r.outside.transports)
      (hsize : r.outside.net.sockets.size ≤ r'.outside.net.sockets.size)
      (haccepted : ∀ s, r'.accepted s = r.accepted s) : Meanwhile k r r'
  | build (r : Rig (Lan τ) τ) (limits : TransportLimits τ) (target : Target) :
      Meanwhile k r (r.via fun o => Carrier.build o limits target).2
  | connect (r : Rig (Lan τ) τ) (id : Nat) : Meanwhile k r (r.via fun o => Carrier.connect o id).2

variable {k : Nat} {r r' : Rig (Lan τ) τ}

theorem Meanwhile.apart (h : Meanwhile k r r') : Apart k r r' := by
  cases h with
  | around hlink => exact hlink
  | build limits target => exact link?_of_stations (stations_via r _) k
  | connect id => exact link?_of_stations (stations_via r _) k

theorem Posted.meanwhile {posts : List (Nat × Message)} (h : r.Posted posts) (haside : Meanwhile k r r') :
    r'.Posted posts := by
  cases haside with
  | around hlink htransports hsize haccepted =>
      have hheld (id : Nat) : r'.outside.held id = r.outside.held id := by rw [Lan.held, htransports, Lan.held]
      exact h.moved 0 hsize haccepted (fun id _ => hheld id) (.inl (hheld 0))
  | build limits target => exact h.via_moves (r.outside.moves_build limits target)
  | connect id => exact h.via_moves (r.outside.moves_connect id)

/-- A use that only counts posts nothing. -/
theorem Posted.counts {posts : List (Nat × Message)} (h : r.Posted posts) (k : Nat) (u : Use) {stage : Use.Stage}
    (hstage : ∀ id bytes, stage ≠ .given id bytes) : (r.proceed k u stage).2.Posted posts := by
  rcases r.proceed_counts k u hstage with heq | ⟨operation, -, heq⟩
  · rwa [heq]
  · rw [heq]
    exact (Posted.performing posts).change h k operation

/-- A use that calls its transport posts what its errand has posted. -/
theorem Posted.calls {posts : List (Nat × Message)} (h : r.Posted posts) {e : Errand (Lan τ) τ} {id : Nat}
    {bytes : List UInt8} (hstage : e.stage = .given id bytes) (hline : e.use.line = .ok bytes) :
    (r.proceed k e.use e.stage).2.Posted (posts ++ (e.proceed k r).post?.toList) := by
  obtain ⟨u, made, called, stage⟩ := e
  cases hstage
  cases u with
  | receive =>
      have hreceived : (r.via fun o => Carrier.receive o id).2.Posted posts :=
        h.via_moves (r.outside.moves_receive id)
      have hnone : (Errand.proceed ⟨.receive, made, called, .given id bytes⟩ k r).post? = none := rfl
      rw [hnone, Option.toList_none, List.append_nil]
      exact hreceived
  | send m =>
      rw [Errand.post?_given rfl]
      exact (h.given id hline).1
  | request m =>
      rw [Errand.post?_given rfl, snd_proceed_request]
      exact (h.given id hline).2

namespace Traffic

variable [Mul τ] [LT τ] [DecidableLT τ] {origin : Rig (Lan τ) τ} {l : Link τ} {inFlight : List Attempt}
  {errands : List (Errand (Lan τ) τ)}

/-- An unanswered request has not succeeded. -/
theorem unanswered_fails (h : Traffic k origin (Apart k) r inFlight errands) :
    ∀ e ∈ errands, e.unanswered = true → e.stage.result? ≠ some true := by
  have hheard : ∀ e ∈ errands, e.Sound k ∧ e.Heard := h.forall_errands
    (fun _ _ u hl howns => ⟨Errand.sound_start hl howns u, Errand.heard_start hl howns u⟩)
    fun _ _ _ hl he => ⟨Errand.sound_proceed he.1 hl, Errand.heard_proceed he.2 he.1 hl⟩
  intro e he hunanswered hresult
  cases huse : e.use with
  | request m =>
      have hbears : e.bears = true := by
        rw [Errand.bears]
        cases hstage : e.stage <;> rw [hstage] at hresult <;> first | cases hresult | exact decide_eq_true hresult
      rw [Errand.unanswered, huse] at hunanswered
      simp [(hheard e he).2 m huse hbears] at hunanswered
  | send m => simp [Errand.unanswered, huse] at hunanswered
  | receive => simp [Errand.unanswered, huse] at hunanswered

/-- What uses that only send report. -/
theorem told (h : Traffic k origin (Apart k) r inFlight errands) : ∀ e ∈ errands, e.Sound k ∧ e.Told :=
  h.forall_errands
    (fun _ _ u hl howns => ⟨Errand.sound_start hl howns u, Errand.told_start hl howns u⟩)
    fun _ _ _ hl he => ⟨Errand.sound_proceed he.1 hl, Errand.told_proceed he.2 he.1⟩

/-- The posts of a run are those of its errands, in the order in which the sockets have taken them. -/
theorem posted (h : Traffic k origin (Meanwhile k) r inFlight errands) (hnew : origin.outside.transports = #[])
    (hsilent : ∀ s, origin.accepted s = []) :
    ∃ posts, r.Posted posts ∧ posts.Perm (errands.filterMap Errand.post?) := by
  induction h with
  | made options host port sink hk =>
      have horigin : origin.Posted [] := by
        have hheld (id : Nat) : origin.outside.held id = none := by simp [Lan.held, hnew]
        exact ⟨by simp [hheld], by simp [hheld], fun s => ⟨[], hsilent s, List.not_mem_nil, fun _ _ => rfl⟩,
          fun s _ => hsilent s⟩
      have hpushed : Rig.Posted { origin with stations := (origin.addLink options (.of host port) sink).2.stations }
          [] := horigin.congr rfl fun _ => rfl
      exact ⟨[], hpushed.report _, .nil⟩
  | elsewhere _ happened ih =>
      obtain ⟨posts, hposted, hperm⟩ := ih
      exact ⟨posts, hposted.meanwhile happened, hperm⟩
  | setEnabled _ on ih =>
      obtain ⟨posts, hposted, hperm⟩ := ih
      exact ⟨posts, (Posted.performing posts).change hposted k _, hperm⟩
  | configure _ host port ih =>
      obtain ⟨posts, hposted, hperm⟩ := ih
      exact ⟨posts, (Posted.performing posts).change hposted k _, hperm⟩
  | shutDown _ ih =>
      obtain ⟨posts, hposted, hperm⟩ := ih
      exact ⟨posts, (Posted.performing posts).change hposted k _, hperm⟩
  | look _ ih =>
      obtain ⟨posts, hposted, hperm⟩ := ih
      exact ⟨posts, (Posted.performing posts).look hposted k, hperm⟩
  | @conclude _ a _ _ _ id up ih =>
      obtain ⟨posts, hposted, hperm⟩ := ih
      exact ⟨posts, (Posted.performing posts).conclude hposted k a id up, hperm⟩
  | abort _ ih =>
      obtain ⟨posts, hposted, hperm⟩ := ih
      exact ⟨posts, (Posted.performing posts).change hposted k _, hperm⟩
  | @enter r _ _ _ u ih =>
      obtain ⟨posts, hposted, hperm⟩ := ih
      have hnone : (Errand.start r k u).post? = none := Errand.post?_of_uncalled rfl
      refine ⟨posts, hposted.enter k u, ?_⟩
      simpa [List.filterMap_append, hnone] using hperm
  | @proceed r _ before after e h ih =>
      obtain ⟨posts, hposted, hperm⟩ := ih
      have hsound := (h.mono fun _ _ => Meanwhile.apart).sound e (List.mem_append_right _ List.mem_cons_self)
      rw [filterMap_middle] at hperm
      by_cases hstage : ∃ id bytes, e.stage = .given id bytes
      · obtain ⟨id, bytes, hstage⟩ := hstage
        simp only [Errand.Sound, hstage] at hsound
        obtain ⟨-, hcalled, hline⟩ := hsound
        refine ⟨_, hposted.calls hstage hline, ?_⟩
        rw [Errand.post?_of_uncalled hcalled, Option.toList_none, List.nil_append] at hperm
        rw [filterMap_middle]
        refine (hperm.append_right _).trans ?_
        rw [List.append_assoc]
        exact List.perm_append_comm.append_left _
      · simp only [not_exists] at hstage
        rw [filterMap_middle, Errand.post?_proceed hstage]
        exact ⟨posts, hposted.counts k e.use hstage, hperm⟩

/-- Over TCP, and whatever the sockets do: the complete lines that a socket has taken are those of the messages
posted on it, in order; and the count of messages sent falls short of them by the messages that are just about to
be counted and by the requests whose line was taken and that no line has come back for, which are failures to
whoever made them. -/
theorem delivered (h : Traffic k origin (Meanwhile k) r inFlight errands) (hnew : origin.outside.transports = #[])
    (hsilent : ∀ s, origin.accepted s = []) :
    ∃ l posts, r.link? k = some l ∧ posts.Perm (errands.filterMap Errand.post?) ∧
      (∀ s, (segments (r.accepted s)).1 = linesOn s posts) ∧
      (∀ e ∈ errands, e.unanswered = true → e.stage.result? ≠ some true) ∧
      r.linesTaken = l.counters.sent + errands.countP Errand.uncounted + errands.countP Errand.waits +
        errands.countP Errand.unanswered := by
  have hlink := h.mono fun _ _ => Meanwhile.apart
  obtain ⟨l, hl, -⟩ := hlink.moment.sound
  obtain ⟨posts, hposted, hperm⟩ := h.posted hnew hsilent
  refine ⟨l, posts, hl, hperm, hposted.segments_accepted, hlink.unanswered_fails, ?_⟩
  have hcounted := (hlink.tally hl).sent
  rw [hposted.linesTaken, hperm.length_eq, Errand.length_posts hlink.told, hcounted]

end Traffic

/-- A message that is sent and a request that nothing answers: the socket has taken both lines, one of them in
pieces, and one message is counted as sent. -/
theorem Traffic.delivered_unanswered :
    ∃ (origin r : Rig (Lan Int) Int) (errands : List (Errand (Lan Int) Int)) (l : Link Int),
      Traffic 0 origin (Meanwhile 0) r [] errands ∧ origin.outside.transports = #[] ∧
        (∀ s, origin.accepted s = []) ∧ r.link? 0 = some l ∧
        errands.map (·.stage.result?) = [some true, some false] ∧ r.linesTaken = 2 ∧ l.counters.sent = 1 ∧
        errands.countP Errand.unanswered = 1 := by
  let origin : Rig (Lan Int) Int :=
    { outside := { net := { clock := 0, coming := [{ uptakes := [.accept 3, .pause 1, .interruption] }] } } }
  have hmade : Traffic 0 origin (Meanwhile 0) _ [] [] :=
    .made ⟨⟨3, 2, defaultLineLimit⟩, {}, 5, 0, .start 1 2 30⟩ "10.0.0.2" 7000 .log rfl
  have hclaimed := (hmade.setEnabled true).look.look
  have hbuilt := hclaimed.elsewhere (.build _ ⟨3, 2, defaultLineLimit⟩ (.of "10.0.0.2" 7000))
  have hconnected := (hbuilt.elsewhere (.connect _ 0)).conclude 0 true
  obtain ⟨e₀, -, -, hfirst, hsent⟩ := hconnected.use (.send {})
  obtain ⟨e₁, -, -, hsecond, hended⟩ := hsent.use (.request {})
  obtain ⟨l, posts, hl, -, -, -, hcount⟩ := hended.delivered rfl fun _ => rfl
  have hresults : [e₀, e₁].map (·.stage.result?) = [some true, some false] := by
    rw [List.map_cons, List.map_singleton, hfirst, hsecond]
    decide +kernel
  have hcounters : some l.counters = some ⟨1, 0, 1, 1, 0⟩ :=
    (congrArg (Option.map Link.counters) hl).symm.trans (by decide +kernel)
  have hpast : [e₀, e₁].countP Errand.uncounted = 0 ∧ [e₀, e₁].countP Errand.waits = 0 := by
    simp [Errand.uncounted, Errand.waits, hfirst, hsecond]
  have htaken : l.counters.sent + [e₀, e₁].countP Errand.uncounted + [e₀, e₁].countP Errand.waits +
      [e₀, e₁].countP Errand.unanswered = 2 := hcount.symm.trans (by decide +kernel)
  have hone : l.counters.sent = 1 := congrArg Counters.sent (Option.some.inj hcounters)
  rw [hpast.1, hpast.2, hone] at htaken
  have hmissed : [e₀, e₁].countP Errand.unanswered = 1 := by omega
  exact ⟨origin, _, _, l, hended, rfl, fun _ => rfl, hl, hresults, by decide +kernel, hone, hmissed⟩

end Rig

end PeripheralLink
