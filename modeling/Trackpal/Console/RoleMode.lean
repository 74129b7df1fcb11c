import Trackpal.Foundation.Runs
import Trackpal.Console.Routing

/-!
# The mode of a sender with two roles

A sender that is the admin of a tenant and a client of it selects in which role it is served, and
the selection is stored.
-/

namespace Trackpal.Console.RoleMode

open Trackpal.Foundation

variable {σ ρ : Type}

/-! ## The handler -/

/-- The modes of an admin that is a client as well. -/
inductive Mode where
  | tenant
  | client
deriving DecidableEq, Repr

/-- `_handle_tenant_console` and `_handle_client_console` for the sender, on the sessions and tables
that they work on, and the two `clear_session` of a cancel. -/
structure Consoles (σ ρ : Type) where
  serve : Mode → σ → String → ρ × σ
  clear : σ → σ

/-- The replies: those of the handler itself, and those of a console. -/
inductive Reply (ρ : Type) where
  | modePrompt
  | modeExit
  | console (reply : ρ)
deriving DecidableEq, Repr

/-- The stored mode, and what the consoles work on. -/
structure State (σ : Type) where
  mode : Option Mode
  consoles : σ
deriving DecidableEq, Repr

variable (c : Consoles σ ρ) (s : State σ)

/-- A message for the console of a mode, which is stored before. -/
def handTo (message : String) (mode : Mode) : Reply ρ × State σ :=
  let (reply, consoles) := c.serve mode s.consoles message
  (.console reply, ⟨some mode, consoles⟩)

def handleAmbiguity (message : String) : Reply ρ × State σ :=
  let msg := strip message
  if isBack msg then (.modePrompt, s)
  else if isCancel msg then (.modeExit, ⟨none, c.clear s.consoles⟩)
  else if lower msg ∈ codigoKeywords then handTo c s message .tenant
  else if lower msg ∈ ["menu", "/menu"] then
    match s.mode with
    | some mode => handTo c s message mode
    | none => (.modePrompt, { s with mode := none })
  else
    match s.mode with
    | some mode => handTo c s message mode
    | none =>
      if msg = "1" then handTo c s "" .tenant
      else if msg = "2" then handTo c s "" .client
      else (.modePrompt, s)

/-! ## Conversations -/

structure Conversation (σ ρ : Type) where
  state : State σ
  last : Option (Reply ρ)
deriving DecidableEq, Repr

/-- A conversation before its first message. -/
def begins : Conversation σ ρ := ⟨s, none⟩

/-- The next message of a conversation. -/
def step (t : Conversation σ ρ) (message : String) : Option (Conversation σ ρ) :=
  some ⟨(handleAmbiguity c t.state message).2, some (handleAmbiguity c t.state message).1⟩

def isModeCommand (message : String) : Bool :=
  isCancel message || clean message ∈ codigoKeywords

/-- The prompt offers what it says, and the console of the mode serves the message. -/
structure Lawful (t : Conversation σ ρ) (message : String) : Prop where
  tenant : t.last = some .modePrompt → strip message = "1" →
    handleAmbiguity c t.state message = handTo c t.state "" .tenant
  client : t.last = some .modePrompt → strip message = "2" →
    handleAmbiguity c t.state message = handTo c t.state "" .client
  serves : ∀ mode, t.state.mode = some mode → isModeCommand message = false →
    handleAmbiguity c t.state message = handTo c t.state message mode

/-- A back while a mode is selected. -/
def strays (t : Conversation σ ρ) (message : String) : Bool :=
  isBack message && t.state.mode.isSome

variable {c s} {mode : Option Mode} {consoles : σ} {t : Conversation σ ρ} {message : String}

namespace RoleModeLemmas

/-- The digits of the prompt, with the modes that they select. -/
def choices : List (String × Mode) := [("1", .tenant), ("2", .client)]

theorem choices_spec : ∀ choice ∈ choices, lower choice.1 ≠ "9" ∧ lower choice.1 ≠ "0" ∧
    lower choice.1 ∉ cancelAliases ∧ lower choice.1 ∉ codigoKeywords ∧
    lower choice.1 ∉ ["menu", "/menu"] := by
  decide +kernel

theorem not_command_of_back (hback : isBack message = true) : isModeCommand message = false := by
  unfold isModeCommand isCancel
  rw [of_decide_eq_true hback]
  decide

theorem handle_back (hback : isBack message = true) :
    handleAmbiguity c s message = (.modePrompt, s) := by
  unfold handleAmbiguity
  dsimp only
  rw [isBack_strip, if_pos hback]

theorem handle_plain (hback : isBack message = false) (hcommand : isModeCommand message = false) :
    handleAmbiguity c s message =
      match s.mode with
      | some mode => handTo c s message mode
      | none =>
        if lower (strip message) ∉ ["menu", "/menu"] ∧ strip message = "1" then
          handTo c s "" .tenant
        else if lower (strip message) ∉ ["menu", "/menu"] ∧ strip message = "2" then
          handTo c s "" .client
        else (.modePrompt, s) := by
  obtain ⟨hcancel, hkeyword⟩ := Bool.or_eq_false_iff.mp hcommand
  have hkeyword' : lower (strip message) ∉ codigoKeywords := of_decide_eq_false hkeyword
  obtain ⟨stored, consoles⟩ := s
  unfold handleAmbiguity
  dsimp only
  rw [isBack_strip, hback, isCancel_strip, hcancel, if_neg Bool.false_ne_true,
    if_neg Bool.false_ne_true, if_neg hkeyword']
  by_cases hmenu : lower (strip message) ∈ ["menu", "/menu"]
  · rw [if_pos hmenu]
    cases stored with
    | some mode => rfl
    | none =>
      dsimp only
      rw [if_neg fun h => h.1 hmenu, if_neg fun h => h.1 hmenu]
  · rw [if_neg hmenu]
    cases stored with
    | some mode => rfl
    | none => simp only [hmenu, not_false_eq_true, true_and]

theorem handle_choice {choice : String × Mode} (hchoice : choice ∈ choices)
    (hstrip : strip message = choice.1) (hmode : s.mode = none) :
    handleAmbiguity c s message = handTo c s "" choice.2 := by
  obtain ⟨hnine, hzero, halias, hkeyword, hmenu⟩ := choices_spec choice hchoice
  have hclean : clean message = lower choice.1 := congrArg lower hstrip
  have hback : isBack message = false := by
    unfold isBack
    rw [hclean]
    exact decide_eq_false hnine
  have hcommand : isModeCommand message = false := by
    unfold isModeCommand isCancel
    rw [hclean, decide_eq_false hzero, decide_eq_false halias, decide_eq_false hkeyword]
    rfl
  rw [handle_plain hback hcommand, hmode, hstrip]
  simp only [choices, List.mem_cons, List.not_mem_nil, or_false] at hchoice
  obtain rfl | rfl := hchoice
  · dsimp only
    rw [if_pos ⟨hmenu, rfl⟩]
  · dsimp only
    rw [if_neg fun h => absurd h.2 (by decide), if_pos ⟨hmenu, rfl⟩]

theorem mode_of_prompt (h : (handleAmbiguity c t.state message).1 = .modePrompt)
    (hstrays : strays t message = false) : (handleAmbiguity c t.state message).2.mode = none := by
  have hback : isBack message = true → t.state.mode = none := fun hback => by
    unfold strays at hstrays
    rw [hback, Bool.true_and] at hstrays
    exact Option.not_isSome_iff_eq_none.mp (by rw [hstrays]; decide)
  unfold handleAmbiguity at h ⊢
  dsimp only at h ⊢
  rw [isBack_strip] at h ⊢
  split at h
  · next hb =>
    rw [if_pos hb]
    exact hback hb
  next hb =>
  rw [if_neg hb]
  split at h
  · cases h
  next hcancel =>
  rw [if_neg hcancel]
  split at h
  · cases h
  next hkeyword =>
  rw [if_neg hkeyword]
  split at h
  · next hmenu =>
    rw [if_pos hmenu]
    cases hmode : t.state.mode with
    | some mode => rw [hmode] at h; cases h
    | none => rfl
  next hmenu =>
  rw [if_neg hmenu]
  cases hmode : t.state.mode with
  | some mode => rw [hmode] at h; cases h
  | none =>
    rw [hmode] at h
    dsimp only at h ⊢
    split at h
    · cases h
    next hone =>
    rw [if_neg hone]
    split at h
    · cases h
    next htwo =>
    rw [if_neg htwo]
    exact hmode

def Prompted (t : Conversation σ ρ) : Prop := t.last = some .modePrompt → t.state.mode = none

theorem prompted_step {t' : Conversation σ ρ} (hstrays : strays t message = false)
    (hstep : step c t message = some t') : Prompted t' := by
  have hprompt := @mode_of_prompt _ _ c t message
  unfold step at hstep
  generalize handleAmbiguity c t.state message = result at hprompt hstep
  intro hlast
  rw [← Option.some.inj hstep] at hlast ⊢
  exact hprompt (Option.some.inj hlast) hstrays

theorem mode_of_last (h : Reaches (step c) (fun t message => strays t message = false) (begins s) t)
    (hlast : t.last = some .modePrompt) : t.state.mode = none := by
  have hinv : Prompted t :=
    h.invariant (fun h => nomatch h) fun _ _ _ _ hok hstep => prompted_step hok hstep
  exact hinv hlast

end RoleModeLemmas

open RoleModeLemmas

/-- In a run without a back while a mode is selected, a message is served as it should be, exactly
if it is not such a back. -/
theorem lawful_iff (c : Consoles σ ρ) (s : State σ) (t : Conversation σ ρ) (message : String)
    (h : Reaches (step c) (fun t message => strays t message = false) (begins s) t) :
    Lawful c t message ↔ strays t message = false := by
  constructor
  · intro hlawful
    by_contra hstrays
    rw [Bool.not_eq_false] at hstrays
    obtain ⟨hback, hsome⟩ := Bool.and_eq_true_iff.mp hstrays
    obtain ⟨mode, hmode⟩ := Option.isSome_iff_exists.mp hsome
    have hserves := hlawful.serves mode hmode (not_command_of_back hback)
    have hprompt := congrArg Prod.fst (handle_back (c := c) (s := t.state) hback)
    rw [hserves] at hprompt
    cases hprompt
  · intro hstrays
    refine ⟨fun hlast hone => ?_, fun hlast htwo => ?_, fun mode hmode hcommand => ?_⟩
    · exact @handle_choice _ _ c t.state message ("1", .tenant) List.mem_cons_self hone
        (mode_of_last h hlast)
    · exact @handle_choice _ _ c t.state message ("2", .client)
        (List.mem_cons_of_mem _ List.mem_cons_self) htwo (mode_of_last h hlast)
    · have hback : isBack message = false := by
        unfold strays at hstrays
        rw [hmode, Option.isSome_some, Bool.and_true] at hstrays
        exact hstrays
      rw [handle_plain hback hcommand, hmode]

def exConsoles : Consoles Unit (Mode × String) := ⟨fun mode _ message => ((mode, message), ()), id⟩

def exClient : List String := ["hola", "2"]

theorem reaches_client : ∃ t, Reaches (step exConsoles) (fun t message => strays t message = false)
    (begins ⟨none, ()⟩) t ∧ t.state.mode = some .client := by
  let ok : Conversation Unit (Mode × String) → String → Bool := fun t message => !strays t message
  let p : Conversation Unit (Mode × String) → Bool := fun t => t.state.mode = some .client
  have hrun : (execWhere (step exConsoles) ok (begins ⟨none, ()⟩) exClient).any p = true := by
    decide +kernel
  obtain ⟨t, hreaches, hmode⟩ := exists_of_execWhere hrun
  exact ⟨t, hreaches.mono fun t message hok => by simpa [ok] using hok, of_decide_eq_true hmode⟩

/-- A sender that has chosen the console of a client. -/
theorem lawful_of_client : ∃ t, Reaches (step exConsoles)
      (fun t message => strays t message = false) (begins ⟨none, ()⟩) t ∧
    (Lawful exConsoles t "1" ↔ strays t "1" = false) := by
  obtain ⟨t, hreaches, _⟩ := reaches_client
  exact ⟨t, hreaches, lawful_iff exConsoles ⟨none, ()⟩ t "1" hreaches⟩

/-- The back of a sender that is served as a client gives the prompt, and its one is then handed to
the console of a client. -/
theorem back_strays : ∃ t t', Reaches (step exConsoles) Always (begins ⟨none, ()⟩) t ∧
    t.state.mode = some .client ∧ isModeCommand "9" = false ∧
    step exConsoles t "9" = some t' ∧ t'.last = some .modePrompt ∧
    (handleAmbiguity exConsoles t'.state "1").1 = .console (.client, "1") ∧
    ¬Lawful exConsoles t "9" ∧ ¬Lawful exConsoles t' "1" := by
  obtain ⟨t, hreaches, hmode⟩ := reaches_client
  obtain ⟨hback, hnot, hcommand, hone⟩ : isBack "9" = true ∧ isBack "1" = false ∧
      isModeCommand "1" = false ∧ strip "1" = "1" := by
    decide +kernel
  have hstep : step exConsoles t "9" = some ⟨t.state, some .modePrompt⟩ := by
    unfold step
    rw [handle_back hback]
  have hserved : (handleAmbiguity exConsoles t.state "1").1 = .console (.client, "1") := by
    rw [handle_plain hnot hcommand, hmode]
    rfl
  have hstrays : strays t "9" = true := by
    unfold strays
    rw [hback, hmode]
    rfl
  refine ⟨t, _, hreaches.mono fun _ _ _ => trivial, hmode, not_command_of_back hback, hstep, rfl,
    hserved, fun hlawful => ?_, fun hlawful => ?_⟩
  · rw [(lawful_iff exConsoles ⟨none, ()⟩ t "9" hreaches).mp hlawful] at hstrays
    cases hstrays
  · have htenant := congrArg Prod.fst (hlawful.tenant rfl hone)
    rw [hserved] at htenant
    cases htenant

end Trackpal.Console.RoleMode
