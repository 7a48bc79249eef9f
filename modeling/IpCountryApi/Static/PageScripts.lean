import Mathlib
import IpCountryApi.Static.App

/-! What the scripts of the page leave behind, whether they end or raise: the controls as
they were, and one panel. -/
set_option mvcgen.warning false

namespace IpCountryApi.Static
open Domain Std.Do

/-- Which controls of the form are disabled. -/
structure Controls where
  input : Bool
  button : Bool
  examples : Bool
  deriving DecidableEq, Repr

/-- Which panels are visible. -/
structure Panels where
  loading : Bool
  result : Bool
  error : Bool
  deriving DecidableEq, Repr

namespace Page

def controls (self : Page) : Controls := ⟨self.inputDisabled, self.buttonDisabled, self.examplesDisabled⟩

def panels (self : Page) : Panels := ⟨!self.loadingHidden, !self.resultHidden, !self.errorHidden⟩

end Page

section Scripts
variable {engine : Engine} {controls : Controls}

/-- Conversions leave the page alone, and raise nothing but a TypeError. -/
@[spec] theorem template_spec (value : Option Json) (before : Page) :
    ⦃fun page => ⌜page = before⌝⦄ engine.template value
    ⦃post⟨fun _ page => ⌜page = before⌝, fun e page => ⌜e = .typeError ∧ page = before⌝⟩⦄ := by
  mvcgen [Engine.template]

@[spec] theorem textContent_spec (value : Option Json) (before : Page) :
    ⦃fun page => ⌜page = before⌝⦄ engine.textContent value
    ⦃post⟨fun _ page => ⌜page = before⌝, fun e page => ⌜e = .typeError ∧ page = before⌝⟩⦄ := by
  mvcgen [Engine.textContent]

@[spec] theorem displayTime_spec (value : Option Json) (before : Page) :
    ⦃fun page => ⌜page = before⌝⦄ engine.displayTime value
    ⦃post⟨fun _ page => ⌜page = before⌝, fun e page => ⌜e = .typeError ∧ page = before⌝⟩⦄ := by
  mvcgen [Engine.displayTime]

/-- A message that is given needs no conversion. -/
@[spec] theorem errorMessage_spec (code : Option Json) (override : Option ErrorMessage) (before : Page) :
    ⦃fun page => ⌜page = before⌝⦄ engine.errorMessage code override
    ⦃post⟨fun _ page => ⌜page = before⌝, fun e page => ⌜override = none ∧ e = .typeError ∧ page = before⌝⟩⦄ := by
  mvcgen [Engine.errorMessage]
  case vc2 hbefore _ _ hpage => exact hpage.trans hbefore
  case vc3 hbefore _ _ => exact fun he hpage => ⟨trivial, he, hpage.trans hbefore⟩

@[spec] theorem showResult_spec (payload : Json) :
    ⦃fun page => ⌜page.controls = controls⌝⦄ engine.showResult payload
    ⦃post⟨fun _ page => ⌜page.controls = controls ∧ page.panels = ⟨false, true, false⟩⌝,
      fun e page => ⌜e = .typeError ∧ page.controls = controls⌝⟩⦄ := by
  mvcgen [Engine.showResult]
  all_goals subst_vars
  case vc1 => exact ⟨rfl, rfl⟩
  all_goals
    intro he hpage
    rw [hpage]
    exact ⟨he, rfl⟩

@[spec] theorem showError_spec (code requestId : Option Json) (override : Option ErrorMessage) :
    ⦃fun page => ⌜page.controls = controls⌝⦄ engine.showError code requestId override
    ⦃post⟨fun _ page => ⌜page.controls = controls ∧ page.panels = ⟨false, false, true⟩⌝,
      fun e page => ⌜override = none ∧ e = .typeError ∧ page.controls = controls⌝⟩⦄ := by
  mvcgen [Engine.showError]
  all_goals subst_vars
  case vc1 => exact ⟨rfl, rfl⟩
  case vc2 => exact ⟨rfl, rfl⟩
  case vc3 =>
    intro hoverride he hpage
    rw [hpage]
    exact ⟨hoverride, he, rfl⟩

/-- An activation that ends shows exactly one of the two panels. -/
def Concluded (ending : Engine.Ending) (panels : Panels) : Prop :=
  (ending = .result ∧ panels = ⟨false, true, false⟩) ∨ (ending = .error ∧ panels = ⟨false, false, true⟩)

@[spec] theorem caught_spec (timedOut : Bool) (error : Thrown) (h : error = .abortError → timedOut = true) :
    ⦃fun page => ⌜page.controls = controls⌝⦄ engine.caught timedOut error
    ⦃post⟨fun ending page => ⌜page.controls = controls ∧ Concluded ending page.panels⌝, fun _ _ => ⌜False⌝⟩⦄ := by
  mvcgen [Engine.caught]
  case vc1 hsuperseded page hpage =>
    obtain ⟨habort, hin⟩ := hsuperseded
    rw [h habort] at hin
    cases hin
  case vc2 hpage _ _ hshown => exact ⟨hshown.1.trans hpage, .inr ⟨rfl, hshown.2⟩⟩
  case vc3 => intro hnone; cases hnone

@[spec] theorem answered_spec (ok : Bool) (payload : Option Json) :
    ⦃fun page => ⌜page.controls = controls⌝⦄ engine.answered ok payload
    ⦃post⟨fun ending page => ⌜page.controls = controls ∧ Concluded ending page.panels⌝,
      fun e page => ⌜e = .typeError ∧ page.controls = controls⌝⟩⦄ := by
  mvcgen [Engine.answered, Engine.answered.failed]
  case vc1 hpage _ _ hshown => exact ⟨hshown.1.trans hpage, .inl ⟨rfl, hshown.2⟩⟩
  case vc3 hpage _ _ hshown => exact ⟨hshown.1.trans hpage, .inr ⟨rfl, hshown.2⟩⟩
  case vc5 hpage _ _ hshown => exact ⟨hshown.1.trans hpage, .inr ⟨rfl, hshown.2⟩⟩
  all_goals
    intro he hpage
    exact ⟨he, hpage.trans ‹_›⟩

/-- The whole try statement: what the try block raises, the catch clause handles. -/
theorem settled_spec (ok timedOut : Bool) (payload : Option Json) :
    ⦃fun page => ⌜page.controls = controls⌝⦄ tryCatch (engine.answered ok payload) (engine.caught timedOut)
    ⦃post⟨fun ending page => ⌜page.controls = controls ∧ Concluded ending page.panels⌝, fun _ _ => ⌜False⌝⟩⦄ := by
  mvcgen
  case vc1 hpage _ _ => exact fun hcontrols hconcluded => ⟨hcontrols.trans hpage, hconcluded⟩
  case vc2 hpage _ page hraised => exact hraised.2.trans hpage
  case vc3 =>
    intro he _ habort
    rw [he] at habort
    cases habort

/-- A script that never raises, as what it does to one page. -/
theorem concludes {script : Script Engine.Ending} {page : Page}
    (h : ∀ controls, ⦃fun page => ⌜page.controls = controls⌝⦄ script
      ⦃post⟨fun ending page => ⌜page.controls = controls ∧ Concluded ending page.panels⌝, fun _ _ => ⌜False⌝⟩⦄) :
    ∃ ending after, script page = .ok ending after ∧ after.controls = page.controls ∧ Concluded ending after.panels := by
  have hrun := h page.controls page rfl
  simp only [wp, PredTrans.apply, EStateM.run] at hrun
  cases hscript : script page with
  | ok ending after =>
    rw [hscript] at hrun
    exact ⟨ending, after, rfl, hrun⟩
  | error e after =>
    rw [hscript] at hrun
    exact hrun.elim

end Scripts
end IpCountryApi.Static
