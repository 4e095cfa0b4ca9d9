import PeripheralLink.Settings
import PeripheralLink.Proofs.Number.Rounding
/-!
What an environment can set.  A variable whose text cannot be used leaves the default and one report, and every limit
is kept, `load_sound` says.  Two texts that can be read get past that: an I/O timeout beyond all doubles leaves no
settings at all, and a tick rate that is undefined is neither positive nor reported.
-/

namespace PeripheralLink

open Float.Model (UnpackedFloat)

theorem float_le_of_lt {x y : Float} (h : x < y) : x ≤ y := by
  have hlt : x.toModel.unpack.lt y.toModel.unpack = true := of_decide_eq_true h
  refine decide_eq_true (p := x.toModel ≤ y.toModel) ?_
  change x.toModel.unpack.le y.toModel.unpack = true
  rw [UnpackedFloat.lt, beq_iff_eq] at hlt
  rw [UnpackedFloat.le, hlt]
  rfl

theorem not_le_of_isNaN {x y : Float} (h : x.isNaN = true) : ¬ x ≤ y := by
  intro hle
  have hle : x.toModel.unpack.le y.toModel.unpack = true := of_decide_eq_true (p := x.toModel ≤ y.toModel) hle
  replace h : x.toModel.unpack.isNaN = true := h
  cases hx : x.toModel.unpack <;> rw [hx] at h hle <;> cases h
  cases hle

/-- Beside the positive numbers only the undefined one is not at most zero. -/
theorem pos_or_isNaN {x : Float} (h : ¬ x ≤ 0.0) : 0.0 < x ∨ x.isNaN = true := by
  have hle : ¬ x.toModel.unpack.le (.zero .positive) = true := fun hle =>
    h (decide_eq_true (p := x.toModel ≤ (0.0 : Float).toModel) hle)
  have hunpacked : UnpackedFloat.lt (.zero .positive) x.toModel.unpack = true ∨ x.toModel.unpack.isNaN = true := by
    cases hx : x.toModel.unpack with
    | notANumber => exact .inr rfl
    | zero s => rw [hx] at hle; exact absurd rfl hle
    | infinity s =>
        rw [hx] at hle
        cases s with
        | positive => exact .inl rfl
        | negative => exact absurd rfl hle
    | finite s m e hpos =>
        rw [hx] at hle
        cases s with
        | positive => exact .inl rfl
        | negative => exact absurd rfl hle
  exact hunpacked.imp_left fun hlt => decide_eq_true (p := (0.0 : Float).toModel < x.toModel) hlt

variable {τ : Type} [LE τ] [LT τ] [DecidableLT τ]

theorem clamp_bounds {value low high : τ} (hle : ∀ x y : τ, x < y → x ≤ y) (hlow : low ≤ low) (hhigh : high ≤ high)
    (horder : low ≤ high) : low ≤ clamp value low high ∧ clamp value low high ≤ high := by
  unfold clamp
  by_cases hcap : value < high
  · rw [if_pos hcap]
    by_cases h : low < value
    · rw [if_pos h]
      exact ⟨hle _ _ h, hle _ _ hcap⟩
    · rw [if_neg h]
      exact ⟨hlow, horder⟩
  · rw [if_neg hcap]
    by_cases h : low < high
    · rw [if_pos h]
      exact ⟨horder, hhigh⟩
    · rw [if_neg h]
      exact ⟨hlow, horder⟩

namespace Settings

section Number

variable {α : Type} {read? : String → Option α} {value : α → Value} {env : Environment} {name raw : String}
variable {fallback x : α}

theorem number_of_unset (hset : nonEmpty env name = none) : number read? value env name fallback = (fallback, []) := by
  rw [number, hset]

theorem number_of_read (hset : nonEmpty env name = some raw) (hread : read? raw = some x) :
    number read? value env name fallback = (x, []) := by
  rw [number, hset]
  dsimp only
  rw [hread]

theorem number_of_unreadable (hset : nonEmpty env name = some raw) (hread : read? raw = none) :
    number read? value env name fallback = (fallback, [.invalidNumber name raw (value fallback)]) := by
  rw [number, hset]
  dsimp only
  rw [hread]

theorem int_of_unreadable {n : Int} (hset : nonEmpty env name = some raw) (hread : Number.readInt? raw = none) :
    (int env name n).1 = n := by
  rw [int, number_of_unreadable hset hread]

theorem float_of_unreadable {x : Float} (hset : nonEmpty env name = some raw) (hread : Number.readFloat? raw = none) :
    (float env name x).1 = x := by
  rw [float, number_of_unreadable hset hread]

theorem mem_number_iff {notice : SettingNotice} : notice ∈ (number read? value env name fallback).2 ↔
    ∃ raw, nonEmpty env name = some raw ∧ read? raw = none ∧ notice = .invalidNumber name raw (value fallback) := by
  cases hset : nonEmpty env name with
  | none => simp [number_of_unset hset]
  | some raw =>
      cases hread : read? raw with
      | none => simp [number_of_unreadable hset hread, hread]
      | some x => simp [number_of_read hset hread, hread]

/-- A number that is not the fallback was read. -/
theorem number_fst_cases (read? : String → Option α) (value : α → Value) (env : Environment) (name : String)
    (fallback : α) : (number read? value env name fallback).1 = fallback ∨
    ∃ raw, nonEmpty env name = some raw ∧ read? raw = some (number read? value env name fallback).1 := by
  cases hset : nonEmpty env name with
  | none => exact .inl (by rw [number_of_unset hset])
  | some raw =>
      cases hread : read? raw with
      | none => exact .inl (by rw [number_of_unreadable hset hread])
      | some x => exact .inr ⟨raw, rfl, by rw [number_of_read hset hread, hread]⟩

end Number

inductive Numeral
  | port
  | connectTimeout
  | ioTimeout
  | lineLimit
  | tickRate

namespace Numeral

def name : Numeral → String
  | port => "VMU_NETWORK_PORT"
  | connectTimeout => "VMU_CONNECT_TIMEOUT"
  | ioTimeout => "VMU_IO_TIMEOUT_MS"
  | lineLimit => "VMU_MAX_LINE_LENGTH"
  | tickRate => "VMU_TICK_HZ"

/-- The text stands for no number of the setting's kind. -/
def Unreadable : Numeral → String → Prop
  | port, raw | ioTimeout, raw | lineLimit, raw => Number.readInt? raw = none
  | connectTimeout, raw | tickRate, raw => Number.readFloat? raw = none

/-- The number that a report on the variable names as the default. -/
def fallback : Numeral → Value
  | port => .int 37393
  | connectTimeout => .float 3.0
  | ioTimeout => .int 5
  | lineLimit => .int 4096
  | tickRate => .float 60.0

def setting : Numeral → Settings → Value
  | port, s => s.target.port
  | connectTimeout, s => .float s.connectTimeout
  | ioTimeout, s => .float s.ioTimeout
  | lineLimit, s => .int s.lineLimit
  | tickRate, s => .float s.tickRate

/-- The reports that reading the variable leads to. -/
def reports : Numeral → Environment → List SettingNotice
  | port, env => (int env port.name 37393).2
  | connectTimeout, env => (float env connectTimeout.name standard.connectTimeout).2
  | ioTimeout, env => (int env ioTimeout.name 5).2
  | lineLimit, env => (int env lineLimit.name standard.lineLimit).2
  | tickRate, env => (float env tickRate.name standard.tickRate).2

theorem mem_reports_iff {v : Numeral} {env : Environment} {notice : SettingNotice} : notice ∈ v.reports env ↔
    ∃ raw, nonEmpty env v.name = some raw ∧ v.Unreadable raw ∧ notice = .invalidNumber v.name raw v.fallback := by
  cases v <;> exact mem_number_iff

end Numeral

/-- A setting's variable cannot be used, and how that is reported. -/
inductive Refused (env : Environment) : Numeral → SettingNotice → Prop
  | unreadable (v : Numeral) {raw : String} (hset : nonEmpty env v.name = some raw) (hread : v.Unreadable raw) :
      Refused env v (.invalidNumber v.name raw v.fallback)
  | notPositive {raw : String} {rate : Float} (hset : nonEmpty env Numeral.tickRate.name = some raw)
      (hread : Number.readFloat? raw = some rate) (hlow : rate ≤ 0.0) : Refused env .tickRate (.invalidRate rate)

/-- The I/O timeout is an integer that is rounded past the largest double. -/
def Beyond (env : Environment) : Prop :=
  ∃ raw ms, nonEmpty env Numeral.ioTimeout.name = some raw ∧ Number.readInt? raw = some ms ∧
    2 ^ 1024 - 2 ^ 970 ≤ ms.natAbs

/-- The tick rate is given as the undefined number. -/
def UndefinedRate (env : Environment) : Prop :=
  ∃ raw rate, nonEmpty env Numeral.tickRate.name = some raw ∧ Number.readFloat? raw = some rate ∧ rate.isNaN = true

/-- Settings keep their limits, and what cannot be used is the default and reported. -/
structure Sound (env : Environment) (s : Settings) (notices : List SettingNotice) : Prop where
  connectTimeout : 2.0 ≤ s.connectTimeout ∧ s.connectTimeout ≤ 5.0
  lineLimit : 1024 ≤ s.lineLimit ∧ s.lineLimit ≤ 4096
  ioTimeout : 0.001 ≤ s.ioTimeout
  tickRate : 0.0 < s.tickRate ∨ s.tickRate.isNaN = true
  undefined : s.tickRate.isNaN = true ↔ UndefinedRate env
  reports : ∀ notice, notice ∈ notices ↔ ∃ v, Refused env v notice
  fallback : ∀ v notice, Refused env v notice → v.setting s = v.setting standard

variable {env : Environment}

/-- A tick rate, or the default in place of one that is not positive. -/
def usedRate (rate : Float) : Float := if !(rate ≤ 0.0) then rate else standard.tickRate

theorem usedRate_of_le {rate : Float} (h : rate ≤ 0.0) : usedRate rate = standard.tickRate := by
  rw [usedRate, decide_eq_true h]
  rfl

theorem usedRate_of_not {rate : Float} (h : ¬ rate ≤ 0.0) : usedRate rate = rate := by
  rw [usedRate, decide_eq_false h]
  rfl

theorem pos_or_isNaN_usedRate (rate : Float) : 0.0 < usedRate rate ∨ (usedRate rate).isNaN = true := by
  by_cases h : rate ≤ 0.0
  · rw [usedRate_of_le h]
    exact .inl (by decide)
  · rw [usedRate_of_not h]
    exact pos_or_isNaN h

theorem isNaN_usedRate (rate : Float) : (usedRate rate).isNaN = rate.isNaN := by
  by_cases h : rate ≤ 0.0
  · have hdefined : rate.isNaN = false := by
      by_contra hundefined
      exact not_le_of_isNaN (Bool.not_eq_false _ ▸ hundefined) h
    rw [usedRate_of_le h, hdefined]
    rfl
  · rw [usedRate_of_not h]

theorem isNaN_rate_iff : (float env Numeral.tickRate.name standard.tickRate).1.isNaN = true ↔ UndefinedRate env := by
  constructor
  · intro hundefined
    obtain hfallback | ⟨raw, hset, hread⟩ :=
      number_fst_cases Number.readFloat? .float env Numeral.tickRate.name standard.tickRate
    · rw [float, hfallback] at hundefined
      cases hundefined
    · exact ⟨raw, _, hset, hread, hundefined⟩
  · rintro ⟨raw, rate, hset, hread, hundefined⟩
    rw [float, number_of_read hset hread]
    exact hundefined

/-- A rate that is not positive was read. -/
theorem refused_of_le (h : (float env Numeral.tickRate.name standard.tickRate).1 ≤ 0.0) :
    Refused env .tickRate (.invalidRate (float env Numeral.tickRate.name standard.tickRate).1) := by
  obtain hfallback | ⟨raw, hset, hread⟩ :=
    number_fst_cases Number.readFloat? .float env Numeral.tickRate.name standard.tickRate
  · rw [float, hfallback] at h
    exact absurd h (by decide)
  · exact .notPositive hset hread h

theorem ioSeconds_eq_none_iff : ioSeconds (int env Numeral.ioTimeout.name 5).1 = none ↔ Beyond env := by
  rw [ioSeconds, Option.map_eq_none_iff]
  constructor
  · intro hbeyond
    obtain hfallback | ⟨raw, hset, hread⟩ :=
      number_fst_cases Number.readInt? .int env Numeral.ioTimeout.name 5
    · rw [int, hfallback] at hbeyond
      cases hbeyond
    · exact ⟨raw, _, hset, hread, Number.ofInt?_eq_none_iff.mp hbeyond⟩
  · rintro ⟨raw, ms, hset, hread, hbeyond⟩
    rw [int, number_of_read hset hread]
    exact Number.ofInt?_eq_none_iff.mpr hbeyond

theorem le_ioSeconds {ms : Int} {seconds : Float} (h : ioSeconds ms = some seconds) : 0.001 ≤ seconds := by
  obtain ⟨ms', -, rfl⟩ := Option.map_eq_some_iff.mp h
  dsimp only
  split
  · rename_i hlt
    exact float_le_of_lt hlt
  · decide

/-- The settings that are numbers, from what their variables give. -/
structure Taken (env : Environment) (s : Settings) : Prop where
  port : s.target.port = .int (int env Numeral.port.name 37393).1
  connectTimeout : s.connectTimeout = clamp (float env Numeral.connectTimeout.name standard.connectTimeout).1 2.0 5.0
  ioTimeout : ioSeconds (int env Numeral.ioTimeout.name 5).1 = some s.ioTimeout
  lineLimit : s.lineLimit = clamp (int env Numeral.lineLimit.name standard.lineLimit).1 1024 4096
  tickRate : s.tickRate = usedRate (float env Numeral.tickRate.name standard.tickRate).1

def reports (env : Environment) : List SettingNotice :=
  Numeral.port.reports env ++ Numeral.connectTimeout.reports env ++ Numeral.ioTimeout.reports env ++
    Numeral.lineLimit.reports env ++ Numeral.tickRate.reports env ++
    if !((float env Numeral.tickRate.name standard.tickRate).1 ≤ 0.0) then []
    else [.invalidRate (float env Numeral.tickRate.name standard.tickRate).1]

theorem load_of_none (h : ioSeconds (int env "VMU_IO_TIMEOUT_MS" 5).1 = none) : load env = none := by
  rw [load]
  simp only [h]
  rfl

theorem load_of_some {seconds : Float} (h : ioSeconds (int env "VMU_IO_TIMEOUT_MS" 5).1 = some seconds) :
    ∃ s, Taken env s ∧ load env = some (s, reports env) := by
  rw [load]
  simp only [h]
  refine ⟨_, ?_, rfl⟩
  exact ⟨rfl, rfl, h, rfl, rfl⟩

theorem mem_reports {notice : SettingNotice} : notice ∈ reports env ↔ (∃ v : Numeral, notice ∈ v.reports env) ∨
    (float env Numeral.tickRate.name standard.tickRate).1 ≤ 0.0 ∧
      notice = .invalidRate (float env Numeral.tickRate.name standard.tickRate).1 := by
  rw [reports, List.mem_append]
  refine or_congr ?_ ?_
  · simp only [List.mem_append]
    constructor
    · rintro ((((h | h) | h) | h) | h) <;> exact ⟨_, h⟩
    · rintro ⟨v, h⟩
      cases v <;> simp only [h, true_or, or_true]
  · by_cases h : (float env Numeral.tickRate.name standard.tickRate).1 ≤ 0.0 <;> simp [h]

theorem mem_reports_iff {notice : SettingNotice} : notice ∈ reports env ↔ ∃ v, Refused env v notice := by
  rw [mem_reports]
  constructor
  · rintro (⟨v, h⟩ | ⟨hlow, rfl⟩)
    · obtain ⟨raw, hset, hread, rfl⟩ := Numeral.mem_reports_iff.mp h
      exact ⟨v, .unreadable v hset hread⟩
    · exact ⟨_, refused_of_le hlow⟩
  · rintro ⟨v, hrefused⟩
    cases hrefused with
    | unreadable _ hset hread => exact .inl ⟨v, Numeral.mem_reports_iff.mpr ⟨_, hset, hread, rfl⟩⟩
    | notPositive hset hread hlow =>
        rw [float, number_of_read hset hread]
        exact .inr ⟨hlow, rfl⟩

variable {s : Settings}

theorem Taken.setting_of_refused {v : Numeral} {notice : SettingNotice} (ht : Taken env s) (h : Refused env v notice) :
    v.setting s = v.setting standard := by
  cases h with
  | unreadable _ hset hread =>
      cases v with
      | port =>
          refine ht.port.trans ?_
          rw [int_of_unreadable hset hread]
          rfl
      | connectTimeout =>
          refine congrArg Value.float (ht.connectTimeout.trans ?_)
          rw [float_of_unreadable hset hread]
          rfl
      | ioTimeout =>
          have hio := ht.ioTimeout
          rw [int_of_unreadable hset hread] at hio
          exact congrArg Value.float (Option.some.inj hio).symm
      | lineLimit =>
          refine congrArg Value.int (ht.lineLimit.trans ?_)
          rw [int_of_unreadable hset hread]
          rfl
      | tickRate =>
          refine congrArg Value.float (ht.tickRate.trans ?_)
          rw [float_of_unreadable hset hread]
          rfl
  | notPositive hset hread hlow =>
      refine congrArg Value.float (ht.tickRate.trans ?_)
      rw [float, number_of_read hset hread]
      exact usedRate_of_le hlow

theorem Taken.sound (ht : Taken env s) : Sound env s (reports env) where
  connectTimeout := by
    rw [ht.connectTimeout]
    exact clamp_bounds (fun _ _ => float_le_of_lt) (by decide) (by decide) (by decide)
  lineLimit := by
    rw [ht.lineLimit]
    exact clamp_bounds (fun _ _ => Int.le_of_lt) (by decide) (by decide) (by decide)
  ioTimeout := le_ioSeconds ht.ioTimeout
  tickRate := by
    rw [ht.tickRate]
    exact pos_or_isNaN_usedRate _
  undefined := by rw [ht.tickRate, isNaN_usedRate, isNaN_rate_iff]
  reports _ := mem_reports_iff
  fallback _ _ := ht.setting_of_refused

/-- An environment gives sound settings unless its I/O timeout is beyond all doubles. -/
theorem load_sound (env : Environment) :
    (Beyond env ∧ load env = none) ∨
      (¬ Beyond env ∧ ∃ s notices, load env = some (s, notices) ∧ Sound env s notices) := by
  cases hio : ioSeconds (int env Numeral.ioTimeout.name 5).1 with
  | none => exact .inl ⟨ioSeconds_eq_none_iff.mp hio, load_of_none hio⟩
  | some seconds =>
      have hwithin : ¬ Beyond env := fun hbeyond => by
        rw [ioSeconds_eq_none_iff.mpr hbeyond] at hio
        cases hio
      obtain ⟨s, ht, hload⟩ := load_of_some hio
      exact .inr ⟨hwithin, s, reports env, hload, ht.sound⟩

/-- Neither an I/O timeout of `10 ^ 400` nor an undefined tick rate falls back to the default. -/
theorem load_sound_unusual :
    load [(Numeral.ioTimeout.name, String.ofList ('1' :: List.replicate 400 '0'))] = none ∧
      ∃ s notices, load [(Numeral.tickRate.name, "nan")] = some (s, notices) ∧ s.tickRate.isNaN = true := by
  constructor
  · have hset : nonEmpty [(Numeral.ioTimeout.name, String.ofList ('1' :: List.replicate 400 '0'))]
        Numeral.ioTimeout.name = some (String.ofList ('1' :: List.replicate 400 '0')) := by decide +kernel
    have hdigits : ∀ c ∈ '1' :: List.replicate 400 '0', 0x30 ≤ c.toNat ∧ c.toNat ≤ 0x39 := by
      intro c hc
      rcases List.mem_cons.mp hc with rfl | hc
      · decide
      · obtain rfl := List.eq_of_mem_replicate hc
        decide
    have hread : Number.readInt? (String.ofList ('1' :: List.replicate 400 '0')) =
        some (Number.ofDigits ('1' :: List.replicate 400 '0') : Int) :=
      Number.readInt?_of_digits hdigits (by decide) (by decide +kernel)
    obtain ⟨-, hload⟩ | ⟨hwithin, -⟩ := load_sound [(_, String.ofList ('1' :: List.replicate 400 '0'))]
    · exact hload
    · exact absurd ⟨_, _, hset, hread, by decide +kernel⟩ hwithin
  · obtain ⟨⟨_, _, hset, -⟩, -⟩ | ⟨-, s, notices, hload, hsound⟩ := load_sound [(Numeral.tickRate.name, "nan")]
    · cases hset
    · exact ⟨s, notices, hload, hsound.undefined.mpr ⟨"nan", 0.0 / 0.0, rfl, rfl, by decide⟩⟩

end Settings

end PeripheralLink
