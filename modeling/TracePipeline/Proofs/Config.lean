import TracePipeline.Config.Batch
import TracePipeline.Config.Dispatcher
import TracePipeline.Proofs.Text.Unsigned

/-!
# What a configuration comes from

Each setting is what its last setter says, or else the number that its variable asks for, or else the
default. Only then are the sizes brought into their bounds, so it does not matter in which order different
settings are set. Every variable that is set to a text that is no number is reported once, whatever the
setters say.
-/

namespace TracePipeline

namespace Environment

/-- A variable is set to a text: its bytes are those of the text. -/
def Holds (env : Environment) (name value : String) : Prop := env.lookup name = some value.toUTF8

/-- A variable asks for a number. -/
def Asks (env : Environment) (name : String) (n : UInt64) : Prop :=
  ∃ value, env.Holds name value ∧ Text.Unsigned UInt64.size value.toList n.toNat

/-- A variable is set to a text that is no number. -/
def Ignores (env : Environment) (name value : String) : Prop :=
  env.Holds name value ∧ ∀ n, ¬ Text.Unsigned UInt64.size value.toList n

/-- The value of a setting, by the values that were given for it, its variable and its default. -/
structure Settled {α : Type} (env : Environment) (name : String) (ofNumber : UInt64 → α) (standard : α)
    (given : List α) (value : α) : Prop where
  last : ∀ x, given.getLast? = some x → value = x
  asked : given = [] → ∀ n, env.Asks name n → value = ofNumber n
  unasked : given = [] → (∀ n, ¬ env.Asks name n) → value = standard

/-- A warning that a variable was passed over, as it is shown. -/
structure Warns (e : Event) (key value : String) : Prop where
  level : e.level = .warn
  name : e.name = "Config.InvalidEnvValue"
  fields : e.fields = [("variable", key), ("value", value)]

/-- What is reported when variables are read one after the other. -/
inductive Reports (env : Environment) : List String → List Event → Prop where
  | none : Reports env [] []
  | warning {name value : String} {e : Event} {names : List String} {log : List Event} :
      env.Ignores name value → Warns e name value → Reports env names log →
      Reports env (name :: names) (e :: log)
  | silence {name : String} {names : List String} {log : List Event} :
      (∀ value, ¬ env.Ignores name value) → Reports env names log →
      Reports env (name :: names) log

variable {env : Environment} {name value : String} {n : UInt64} {names : List String}
  {log : List Event}

/-! ### Variables -/

lemma text?_eq_some_iff : env.text? name = some value ↔ env.Holds name value := by
  have hbytes (bytes : ByteArray) :
      String.fromUTF8? bytes = some value ↔ bytes = value.toUTF8 := by
    constructor
    · intro h
      unfold String.fromUTF8? at h
      split at h
      · cases h
        rfl
      · cases h
    · rintro rfl
      exact dif_pos value.isValidUTF8
  unfold text? Holds
  rw [Option.bind_eq_some_iff]
  constructor
  · rintro ⟨bytes, hlookup, h⟩
    rw [hlookup, (hbytes bytes).mp h]
  · intro h
    exact ⟨value.toUTF8, h, (hbytes _).mpr rfl⟩

lemma number_of_asks (h : env.Asks name n) : env.number name = (some n, []) := by
  obtain ⟨value, hholds, hnumber⟩ := h
  unfold number
  rw [text?_eq_some_iff.mpr hholds]
  dsimp only
  rw [Text.readUnsigned?_trimmed_iff.mpr hnumber]
  dsimp only
  rw [UInt64.ofNat_toNat]

lemma number_of_ignores (h : env.Ignores name value) :
    env.number name = (none, [.settingIgnored name value]) := by
  have hread : Text.readUnsigned? UInt64.size (Text.trimmed value.toList) = none := by
    rw [Option.eq_none_iff_forall_ne_some]
    intro n hn
    exact h.2 n (Text.readUnsigned?_trimmed_iff.mp hn)
  unfold number
  rw [text?_eq_some_iff.mpr h.1]
  dsimp only
  rw [hread]

lemma number_of_unset (h : ∀ value, ¬ env.Holds name value) : env.number name = (none, []) := by
  have htext : env.text? name = none := by
    rw [Option.eq_none_iff_forall_ne_some]
    intro value hvalue
    exact h value (text?_eq_some_iff.mp hvalue)
  unfold number
  rw [htext]

/-- A variable asks for a number, or has a text that is none, or has no text. -/
lemma number_cases (env : Environment) (name : String) :
    (∃ n, env.Asks name n ∧ env.number name = (some n, [])) ∨
    (∃ value, env.Ignores name value ∧ env.number name = (none, [.settingIgnored name value])) ∨
    ((∀ value, ¬ env.Holds name value) ∧ env.number name = (none, [])) := by
  by_cases hasks : ∃ n, env.Asks name n
  · obtain ⟨n, hn⟩ := hasks
    exact .inl ⟨n, hn, number_of_asks hn⟩
  · by_cases hholds : ∃ value, env.Holds name value
    · obtain ⟨value, hvalue⟩ := hholds
      have hignores : env.Ignores name value := by
        refine ⟨hvalue, fun n hn => hasks ⟨.ofNat n, value, hvalue, ?_⟩⟩
        rw [UInt64.toNat_ofNat_of_lt' hn.lt]
        exact hn
      exact .inr (.inl ⟨value, hignores, number_of_ignores hignores⟩)
    · have hunset := not_exists.mp hholds
      exact .inr (.inr ⟨hunset, number_of_unset hunset⟩)

/-- What is read from a variable is overridden by what is given, and overrides the default. -/
lemma settled {α : Type} (env : Environment) (name : String) (ofNumber : UInt64 → α) (standard : α)
    (given : List α) : env.Settled name ofNumber standard given
      (given.getLast?.getD (((env.number name).1.map ofNumber).getD standard)) where
  last x hx := by
    rw [hx]
    rfl
  asked hgiven n hn := by
    rw [hgiven, number_of_asks hn]
    rfl
  unasked hgiven hn := by
    rw [hgiven]
    obtain ⟨n, hasks, -⟩ | ⟨value, -, hnumber⟩ | ⟨-, hnumber⟩ := env.number_cases name
    · exact absurd hasks (hn n)
    · rw [hnumber]
      rfl
    · rw [hnumber]
      rfl

lemma Reports.number (h : env.Reports names log) (name : String) :
    env.Reports (name :: names) ((env.number name).2 ++ log) := by
  obtain ⟨n, ⟨value, hholds, hn⟩, hnumber⟩ | ⟨value, hignores, hnumber⟩ | ⟨hunset, hnumber⟩ :=
    env.number_cases name
  · rw [hnumber]
    apply Reports.silence _ h
    rintro value' ⟨hholds', hnone⟩
    have hsame : value = value' := by
      have htext := (text?_eq_some_iff.mpr hholds).symm.trans (text?_eq_some_iff.mpr hholds')
      exact Option.some.inj htext
    exact hnone n.toNat (hsame ▸ hn)
  · rw [hnumber]
    exact .warning hignores ⟨rfl, rfl, rfl⟩ h
  · rw [hnumber]
    exact .silence (fun value hignores => hunset value hignores.1) h

end Environment

/-- A field that some of the changes write has the value that was written last. -/
lemma foldl_last {α β γ : Type} {set : α → β → α} {get : α → γ} {written : β → Option γ}
    (hset : ∀ a b, get (set a b) = (written b).getD (get a)) (a : α) (bs : List β) :
    get (bs.foldl set a) = (bs.filterMap written).getLast?.getD (get a) := by
  induction bs generalizing a with
  | nil => rfl
  | cons b bs ih =>
    rw [List.foldl_cons, ih, hset]
    cases hb : written b with
    | none => rw [List.filterMap_cons_none hb, Option.getD_none]
    | some x => rw [List.filterMap_cons_some hb, List.getLast?_cons, Option.getD_some, Option.getD_some]

/-- A field that starts with what its variable asks for is settled by the setters that write it. -/
lemma settled_foldl {α β γ : Type} {set : α → β → α} {get : α → γ} {written : β → Option γ}
    (hset : ∀ a b, get (set a b) = (written b).getD (get a)) {env : Environment} {name : String}
    {ofNumber : UInt64 → γ} {standard : γ} {a : α}
    (hstart : get a = ((env.number name).1.map ofNumber).getD standard) (bs : List β) :
    env.Settled name ofNumber standard (bs.filterMap written) (get (bs.foldl set a)) := by
  rw [foldl_last hset, hstart]
  exact env.settled name ofNumber standard (bs.filterMap written)

/-- Neighbours that may change places may do so in the middle of a list. -/
lemma foldl_swap {α β : Type} {set : α → β → α} {x y : β}
    (hswap : ∀ a, set (set a x) y = set (set a y) x) (a : α) (before rest : List β) :
    (before ++ y :: x :: rest).foldl set a = (before ++ x :: y :: rest).foldl set a := by
  rw [List.foldl_append, List.foldl_append, List.foldl_cons, List.foldl_cons, List.foldl_cons,
    List.foldl_cons, hswap]

namespace DispatcherConfig

/-- The variable that a setter overrides. -/
def Setter.overrides : Setter → String
  | .maxQueueSize _ => "ZTRACE_DISPATCHER_MAX_QUEUE_SIZE"
  | .shutdownTimeout _ => "ZTRACE_DISPATCHER_SHUTDOWN_TIMEOUT"

def Setter.queue? : Setter → Option Nat
  | .maxQueueSize n => some n
  | _ => none

def Setter.timeout? : Setter → Option Duration
  | .shutdownTimeout d => some d
  | _ => none

/-- What holds of the configuration that an environment and setters lead to. -/
structure Configured (env : Environment) (setters : List Setter) : Prop where
  maxQueueSize : ∃ n, env.Settled "ZTRACE_DISPATCHER_MAX_QUEUE_SIZE" UInt64.toNat 5000
    (setters.filterMap Setter.queue?) n ∧ (configure env setters).1.maxQueueSize = max n 1
  shutdownTimeout : env.Settled "ZTRACE_DISPATCHER_SHUTDOWN_TIMEOUT" Duration.ofMillis (.ofMillis 10000)
    (setters.filterMap Setter.timeout?) (configure env setters).1.shutdownTimeout
  commutes : ∀ before x y rest, setters = before ++ x :: y :: rest → x.overrides ≠ y.overrides →
    configure env (before ++ y :: x :: rest) = configure env setters
  reported : env.Reports ["ZTRACE_DISPATCHER_MAX_QUEUE_SIZE", "ZTRACE_DISPATCHER_SHUTDOWN_TIMEOUT"]
    (configure env setters).2

lemma maxQueueSize_set (b : Builder) (x : Setter) :
    (b.set x).maxQueueSize = x.queue?.getD b.maxQueueSize := by
  cases x with
  | maxQueueSize n => rfl
  | shutdownTimeout d => rfl

lemma shutdownTimeout_set (b : Builder) (x : Setter) :
    (b.set x).shutdownTimeout = x.timeout?.getD b.shutdownTimeout := by
  cases x with
  | maxQueueSize n => rfl
  | shutdownTimeout d => rfl

lemma set_swap {x y : Setter} (h : x.overrides ≠ y.overrides) (b : Builder) :
    (b.set x).set y = (b.set y).set x := by
  cases x with
  | maxQueueSize n =>
    cases y with
    | maxQueueSize m => exact absurd rfl h
    | shutdownTimeout d => rfl
  | shutdownTimeout d =>
    cases y with
    | maxQueueSize n => rfl
    | shutdownTimeout d' => exact absurd rfl h

lemma configure_eq (env : Environment) (setters : List Setter) : configure env setters =
    ((setters.foldl Builder.set (Builder.ofEnvironment env).1).build,
      (Builder.ofEnvironment env).2) := rfl

lemma configured (env : Environment) (setters : List Setter) : Configured env setters where
  maxQueueSize := ⟨_, settled_foldl maxQueueSize_set rfl setters, rfl⟩
  shutdownTimeout := settled_foldl shutdownTimeout_set rfl setters
  commutes before x y rest hsetters h := by
    rw [hsetters, configure_eq, configure_eq, foldl_swap (set_swap h)]
  reported := by
    have hnone : env.Reports [] [] := .none
    have hreports := hnone.number "ZTRACE_DISPATCHER_SHUTDOWN_TIMEOUT"
    rw [List.append_nil] at hreports
    exact hreports.number "ZTRACE_DISPATCHER_MAX_QUEUE_SIZE"

end DispatcherConfig

namespace BatchConfig

/-- The variable that a setter overrides. -/
def Setter.overrides : Setter → String
  | .maxQueueSize _ => "ZTRACE_BSP_MAX_QUEUE_SIZE"
  | .batchSize _ => "ZTRACE_BSP_BATCH_SIZE"
  | .timeWindow _ => "ZTRACE_BSP_TIME_WINDOW"
  | .shutdownTimeout _ => "ZTRACE_BSP_SHUTDOWN_TIMEOUT"

def Setter.queue? : Setter → Option Nat
  | .maxQueueSize n => some n
  | _ => none

def Setter.batch? : Setter → Option Nat
  | .batchSize n => some n
  | _ => none

def Setter.window? : Setter → Option Duration
  | .timeWindow d => some d
  | _ => none

def Setter.timeout? : Setter → Option Duration
  | .shutdownTimeout d => some d
  | _ => none

/-- What holds of the configuration that an environment and setters lead to. -/
structure Configured (env : Environment) (setters : List Setter) : Prop where
  maxQueueSize : ∃ n, env.Settled "ZTRACE_BSP_MAX_QUEUE_SIZE" UInt64.toNat 1000
    (setters.filterMap Setter.queue?) n ∧ (configure env setters).1.maxQueueSize = max n 1
  batchSize : ∃ n, env.Settled "ZTRACE_BSP_BATCH_SIZE" UInt64.toNat 10
    (setters.filterMap Setter.batch?) n ∧
    (configure env setters).1.batchSize = max (min n (configure env setters).1.maxQueueSize) 1
  bounded : 1 ≤ (configure env setters).1.batchSize ∧
    (configure env setters).1.batchSize ≤ (configure env setters).1.maxQueueSize
  timeWindow : env.Settled "ZTRACE_BSP_TIME_WINDOW" Duration.ofMillis (.ofMillis 5000)
    (setters.filterMap Setter.window?) (configure env setters).1.timeWindow
  shutdownTimeout : env.Settled "ZTRACE_BSP_SHUTDOWN_TIMEOUT" Duration.ofMillis (.ofMillis 10000)
    (setters.filterMap Setter.timeout?) (configure env setters).1.shutdownTimeout
  commutes : ∀ before x y rest, setters = before ++ x :: y :: rest → x.overrides ≠ y.overrides →
    configure env (before ++ y :: x :: rest) = configure env setters
  reported : env.Reports ["ZTRACE_BSP_MAX_QUEUE_SIZE", "ZTRACE_BSP_BATCH_SIZE", "ZTRACE_BSP_TIME_WINDOW",
    "ZTRACE_BSP_SHUTDOWN_TIMEOUT"] (configure env setters).2

lemma maxQueueSize_set (b : Builder) (x : Setter) :
    (b.set x).maxQueueSize = x.queue?.getD b.maxQueueSize := by
  cases x <;> rfl

lemma batchSize_set (b : Builder) (x : Setter) : (b.set x).batchSize = x.batch?.getD b.batchSize := by
  cases x <;> rfl

lemma timeWindow_set (b : Builder) (x : Setter) :
    (b.set x).timeWindow = x.window?.getD b.timeWindow := by
  cases x <;> rfl

lemma shutdownTimeout_set (b : Builder) (x : Setter) :
    (b.set x).shutdownTimeout = x.timeout?.getD b.shutdownTimeout := by
  cases x <;> rfl

lemma set_swap {x y : Setter} (h : x.overrides ≠ y.overrides) (b : Builder) :
    (b.set x).set y = (b.set y).set x := by
  cases x with
  | maxQueueSize n =>
    cases y with
    | maxQueueSize m => exact absurd rfl h
    | batchSize _ | timeWindow _ | shutdownTimeout _ => rfl
  | batchSize n =>
    cases y with
    | batchSize m => exact absurd rfl h
    | maxQueueSize _ | timeWindow _ | shutdownTimeout _ => rfl
  | timeWindow d =>
    cases y with
    | timeWindow d' => exact absurd rfl h
    | maxQueueSize _ | batchSize _ | shutdownTimeout _ => rfl
  | shutdownTimeout d =>
    cases y with
    | shutdownTimeout d' => exact absurd rfl h
    | maxQueueSize _ | batchSize _ | timeWindow _ => rfl

lemma configure_eq (env : Environment) (setters : List Setter) : configure env setters =
    ((setters.foldl Builder.set (Builder.ofEnvironment env).1).build,
      (Builder.ofEnvironment env).2) := rfl

lemma bounded_build (b : Builder) :
    1 ≤ b.build.batchSize ∧ b.build.batchSize ≤ b.build.maxQueueSize := by
  unfold Builder.build
  dsimp only
  omega

lemma configured (env : Environment) (setters : List Setter) : Configured env setters where
  maxQueueSize := ⟨_, settled_foldl maxQueueSize_set rfl setters, rfl⟩
  batchSize := ⟨_, settled_foldl batchSize_set rfl setters, rfl⟩
  bounded := bounded_build _
  timeWindow := settled_foldl timeWindow_set rfl setters
  shutdownTimeout := settled_foldl shutdownTimeout_set rfl setters
  commutes before x y rest hsetters h := by
    rw [hsetters, configure_eq, configure_eq, foldl_swap (set_swap h)]
  reported := by
    have hnone : env.Reports [] [] := .none
    have hreports := hnone.number "ZTRACE_BSP_SHUTDOWN_TIMEOUT"
    have hall := ((hreports.number "ZTRACE_BSP_TIME_WINDOW").number "ZTRACE_BSP_BATCH_SIZE").number
      "ZTRACE_BSP_MAX_QUEUE_SIZE"
    rw [List.append_nil, ← List.append_assoc, ← List.append_assoc] at hall
    exact hall

end BatchConfig

/-- Both configurations are what the environment and the setters say, and report what they pass over. -/
theorem Environment.configures (env : Environment) :
    (∀ setters, DispatcherConfig.Configured env setters) ∧
      ∀ setters, BatchConfig.Configured env setters :=
  ⟨DispatcherConfig.configured env, BatchConfig.configured env⟩

end TracePipeline
