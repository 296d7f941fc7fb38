import RecordTemplate.Proofs.Exchange

/-!
Templates in sessions. A step shows and keeps templates that were there before, or one new template
of some text (`Slots.step_eq_ok`), and it succeeds if no slot that it reads is empty
(`Slots.exists_step`). So what holds of the templates of all texts holds of every template of a
session, whatever its steps (`run_invariant`). In particular each is the template that its source is
read as, and templates are the same if their sources are (`faithful_of_run`).
-/

set_option autoImplicit false
set_option relaxedAutoImplicit false

namespace RecordTemplate.Session

open Direct (bind_eq_ok mapError_eq_ok)

/-! ### The templates of a session -/

/-- The templates that an answer shows. -/
def Answer.templates : Answer → List Template
  | .template shown | .evaluated shown _ => [shown]
  | .nothing | .comparison .. | .joined _ => []

def Slots.templates (slots : Slots) : List Template :=
  slots.map Prod.snd

/-- The templates that a session has shown, and those in its slots. -/
def templates (answers : List Answer) (slots : Slots) : List Template :=
  answers.flatMap Answer.templates ++ slots.templates

/-- The slots that a step reads. -/
def Step.reads : Step → List String
  | .create .. => []
  | .derive _ slot _ | .evaluate slot .. | .evaluateInto _ slot .. => [slot]
  | .compare first second => [first, second]
  | .join slots .. => slots

/-! ### Slots -/

namespace Slots

variable {slots after : Slots} {slot into : String} {template : Template}

theorem mem_templates_of_get (hget : slots.get slot = .ok template) :
    template ∈ slots.templates := by
  rw [get] at hget
  split at hget
  · next kept hlookup =>
    obtain ⟨before, after, hslots, _⟩ := List.lookup_eq_some_iff.mp hlookup
    rw [Slots.templates, hslots, ← Except.ok.inj hget]
    simp
  · contradiction

theorem templates_put :
    (slots.put into template).templates = template :: slots.templates := rfl

/-! ### Steps -/

/-- All that a step can do: it leaves the slots as they are and shows templates from them, or it
puts the one template that it shows into a slot, and that was in a slot before or is the template of
a text. -/
theorem step_eq_ok {step : Step} {answer : Answer} (hstep : slots.step step = .ok (answer, after)) :
    (after = slots ∧ ∀ template ∈ answer.templates, template ∈ slots.templates) ∨
      ∃ into template, answer.templates = [template] ∧ after = slots.put into template ∧
        (template ∈ slots.templates ∨ ∃ origin text, template = Origin.template origin text) := by
  cases step with
  | create origin text into =>
    obtain ⟨rfl, rfl⟩ := Prod.mk.inj (Except.ok.inj hstep)
    exact .inr ⟨into, origin.template text, rfl, rfl, .inr ⟨origin, text, rfl⟩⟩
  | derive derivation slot into =>
    obtain ⟨template, hget, hderive⟩ := bind_eq_ok.mp hstep
    obtain ⟨derived, happly, hresult⟩ := bind_eq_ok.mp hderive
    rw [mapError_eq_ok] at happly
    obtain ⟨rfl, rfl⟩ := Prod.mk.inj (Except.ok.inj hresult)
    refine .inr ⟨into, derived, rfl, rfl, ?_⟩
    obtain hsame | ⟨origin, text, htext⟩ := derivation.apply_cases template
    · rw [hsame] at happly
      exact .inl (Except.ok.inj happly ▸ mem_templates_of_get hget)
    · rw [htext] at happly
      exact .inr ⟨origin, text, (Except.ok.inj happly).symm⟩
  | evaluate slot record encoding =>
    obtain ⟨template, hget, hresult⟩ := bind_eq_ok.mp hstep
    obtain ⟨rfl, rfl⟩ := Prod.mk.inj (Except.ok.inj hresult)
    exact .inl ⟨rfl, List.forall_mem_singleton.mpr (mem_templates_of_get hget)⟩
  | evaluateInto origin slot record encoding into =>
    obtain ⟨template, -, hresult⟩ := bind_eq_ok.mp hstep
    split at hresult
    · obtain ⟨rfl, rfl⟩ := Prod.mk.inj (Except.ok.inj hresult)
      exact .inl ⟨rfl, List.forall_mem_nil _⟩
    · next output _ =>
      obtain ⟨rfl, rfl⟩ := Prod.mk.inj (Except.ok.inj hresult)
      exact .inr ⟨into, origin.template output, rfl, rfl, .inr ⟨origin, output, rfl⟩⟩
  | compare first second =>
    obtain ⟨_, -, hsecond⟩ := bind_eq_ok.mp hstep
    obtain ⟨_, -, hresult⟩ := bind_eq_ok.mp hsecond
    obtain ⟨rfl, rfl⟩ := Prod.mk.inj (Except.ok.inj hresult)
    exact .inl ⟨rfl, List.forall_mem_nil _⟩
  | join names record encoding separator =>
    obtain ⟨_, -, hresult⟩ := bind_eq_ok.mp hstep
    obtain ⟨rfl, rfl⟩ := Prod.mk.inj (Except.ok.inj hresult)
    exact .inl ⟨rfl, List.forall_mem_nil _⟩

/-- What holds of the templates of all texts and of the slots before a step holds of all that it
shows and of the slots behind it. -/
theorem invariant_of_step {property : Template → Prop}
    (htext : ∀ origin text, property (Origin.template origin text))
    (hslots : ∀ template ∈ slots.templates, property template) {step : Step} {answer : Answer}
    (hstep : slots.step step = .ok (answer, after)) :
    (∀ template ∈ answer.templates, property template) ∧
      ∀ template ∈ after.templates, property template := by
  obtain ⟨rfl, hshown⟩ | ⟨into, template, hanswer, rfl, htemplate⟩ := step_eq_ok hstep
  · exact ⟨fun template htemplate ↦ hslots template (hshown template htemplate), hslots⟩
  · have hproperty : property template := by
      obtain hkept | ⟨origin, text, rfl⟩ := htemplate
      · exact hslots template hkept
      · exact htext origin text
    rw [hanswer, templates_put]
    exact ⟨List.forall_mem_singleton.mpr hproperty, List.forall_mem_cons.mpr ⟨hproperty, hslots⟩⟩

theorem step_derive {derivation : Derivation} {derived : Template}
    (hget : slots.get slot = .ok template) (happly : derivation.apply template = .ok derived) :
    slots.step (.derive derivation slot into) =
      .ok (.template derived, slots.put into derived) :=
  bind_eq_ok.mpr ⟨template, hget, bind_eq_ok.mpr ⟨derived, mapError_eq_ok.mpr happly, rfl⟩⟩

theorem exists_mapM_get {names : List String}
    (hnames : ∀ slot ∈ names, ∃ template, slots.get slot = .ok template) :
    ∃ templates, names.mapM slots.get = .ok templates := by
  induction names with
  | nil => exact ⟨[], rfl⟩
  | cons name names ih =>
    obtain ⟨hname, hnames⟩ := List.forall_mem_cons.mp hnames
    obtain ⟨template, hget⟩ := hname
    obtain ⟨templates, hrest⟩ := ih hnames
    refine ⟨template :: templates, ?_⟩
    rw [List.mapM_cons, hget, hrest]
    rfl

/-- A step that reads no empty slot succeeds. -/
theorem exists_step {step : Step}
    (hreads : ∀ slot ∈ step.reads, ∃ template, slots.get slot = .ok template) :
    ∃ answer after, slots.step step = .ok (answer, after) := by
  cases step with
  | create origin text into => exact ⟨_, _, rfl⟩
  | derive derivation slot into =>
    obtain ⟨template, hget⟩ := hreads slot (List.mem_singleton_self slot)
    obtain happly | ⟨origin, text, happly⟩ := derivation.apply_cases template
    · exact ⟨_, _, step_derive hget happly⟩
    · exact ⟨_, _, step_derive hget happly⟩
  | evaluate slot record encoding =>
    obtain ⟨template, hget⟩ := hreads slot (List.mem_singleton_self slot)
    exact ⟨_, _, bind_eq_ok.mpr ⟨template, hget, rfl⟩⟩
  | evaluateInto origin slot record encoding into =>
    obtain ⟨template, hget⟩ := hreads slot (List.mem_singleton_self slot)
    cases houtput : template.evaluate? record encoding with
    | none =>
      refine ⟨.nothing, slots, bind_eq_ok.mpr ⟨template, hget, ?_⟩⟩
      rw [houtput]
      rfl
    | some output =>
      let next := origin.template output
      refine ⟨.template next, slots.put into next, bind_eq_ok.mpr ⟨template, hget, ?_⟩⟩
      rw [houtput]
      rfl
  | compare first second =>
    obtain ⟨one, hfirst⟩ := hreads first List.mem_cons_self
    obtain ⟨other, hsecond⟩ := hreads second (List.mem_cons_of_mem _ List.mem_cons_self)
    exact ⟨_, _, bind_eq_ok.mpr ⟨one, hfirst, bind_eq_ok.mpr ⟨other, hsecond, rfl⟩⟩⟩
  | join names record encoding separator =>
    obtain ⟨templates, hnames⟩ := exists_mapM_get hreads
    exact ⟨_, _, bind_eq_ok.mpr ⟨templates, hnames, rfl⟩⟩

end Slots

/-! ### Runs -/

/-- What holds of the templates of all texts holds of every template of a session. The induction is
on the steps, with the slots that they start from left open. -/
theorem run_invariant {property : Template → Prop}
    (htext : ∀ origin text, property (Origin.template origin text)) {steps : List Step}
    {slots after : Slots} {answers : List Answer}
    (hslots : ∀ template ∈ slots.templates, property template)
    (hrun : run slots steps = .ok (answers, after)) :
    ∀ template ∈ templates answers after, property template := by
  induction steps generalizing slots answers with
  | nil =>
    obtain ⟨rfl, rfl⟩ := Prod.mk.inj (Except.ok.inj hrun)
    exact hslots
  | cons step steps ih =>
    obtain ⟨⟨answer, middle⟩, hstep, hrest⟩ := bind_eq_ok.mp hrun
    obtain ⟨⟨behind, last⟩, hsteps, hresult⟩ := bind_eq_ok.mp hrest
    obtain ⟨rfl, rfl⟩ := Prod.mk.inj (Except.ok.inj hresult)
    obtain ⟨hanswer, hmiddle⟩ := Slots.invariant_of_step htext hslots hstep
    have hbehind := ih hmiddle hsteps
    rw [templates, List.flatMap_cons, List.append_assoc]
    exact List.forall_mem_append.mpr ⟨hanswer, hbehind⟩

/-- A session can go on from the slots that it has come to. -/
theorem run_append {steps more : List Step} {slots middle after : Slots}
    {answers behind : List Answer} (hrun : run slots steps = .ok (answers, middle))
    (hmore : run middle more = .ok (behind, after)) :
    run slots (steps ++ more) = .ok (answers ++ behind, after) := by
  induction steps generalizing slots answers with
  | nil =>
    obtain ⟨rfl, rfl⟩ := Prod.mk.inj (Except.ok.inj hrun)
    exact hmore
  | cons step steps ih =>
    obtain ⟨⟨answer, next⟩, hstep, hrest⟩ := bind_eq_ok.mp hrun
    obtain ⟨⟨rest, last⟩, hsteps, hresult⟩ := bind_eq_ok.mp hrest
    obtain ⟨rfl, rfl⟩ := Prod.mk.inj (Except.ok.inj hresult)
    exact bind_eq_ok.mpr ⟨_, hstep, bind_eq_ok.mpr ⟨_, ih hsteps, rfl⟩⟩

theorem run_singleton {step : Step} {slots after : Slots} {answer : Answer}
    (hstep : slots.step step = .ok (answer, after)) :
    run slots [step] = .ok ([answer], after) :=
  bind_eq_ok.mpr ⟨_, hstep, rfl⟩

end RecordTemplate.Session

namespace RecordTemplate

open Session (Slots)

/-- Whatever the steps of a session, each of its templates is the one that its source is read as,
so any two of them are the same if and only if their sources are. Reading the source of a template
again and writing it as JSON and reading it again both lead back to it, and the session goes on with
any step that reads no empty slot. -/
theorem faithful_of_run {steps : List Session.Step} {answers : List Session.Answer} {slots : Slots}
    (hrun : Session.run [] steps = .ok (answers, slots)) :
    (∀ template ∈ Session.templates answers slots, Template.parse template.source = template) ∧
      (∀ first ∈ Session.templates answers slots, ∀ second ∈ Session.templates answers slots,
        first = second ↔ first.source = second.source) ∧
      (∀ slot template into, slots.get slot = .ok template →
        slots.step (.derive (.ofSource .source) slot into) =
            .ok (.template template, slots.put into template) ∧
          slots.step (.derive .exchange slot into) =
            .ok (.template template, slots.put into template) ∧
          Json.convert Template.ofJson template.toJson.render = .ok template) ∧
      ∀ step : Session.Step, (∀ slot ∈ step.reads, ∃ template, slots.get slot = .ok template) →
        ∃ answer after, slots.step step = .ok (answer, after) ∧
          Session.run [] (steps ++ [step]) = .ok (answers ++ [answer], after) := by
  have hfaithful : ∀ template ∈ Session.templates answers slots, template.IsFaithful :=
    Session.run_invariant isFaithful_template (List.forall_mem_nil _) hrun
  refine ⟨hfaithful, ?_, ?_, ?_⟩
  · intro first hfirst second hsecond
    exact (hfaithful first hfirst).eq_iff (hfaithful second hsecond)
  · intro slot template into hget
    have htemplate : Template.parse template.source = template :=
      hfaithful template (List.mem_append_right _ (Slots.mem_templates_of_get hget))
    refine ⟨Slots.step_derive hget ?_, Slots.step_derive hget ?_, ?_⟩
    · exact congrArg Except.ok htemplate
    · rw [Derivation.apply, read_template, htemplate]
    · rw [convert_template, htemplate]
  · intro step hreads
    obtain ⟨answer, after, hstep⟩ := Slots.exists_step hreads
    exact ⟨answer, after, hstep, Session.run_append hrun (Session.run_singleton hstep)⟩

/-- A brace on its way through a constant, a rendering and an output. The first template and the
last are the same, though only the last was read from its source. -/
theorem faithful_of_run_constant :
    ∃ answers, Session.run []
        [.create .value "\x7b" "a", .derive (.ofRendering .value) "a" "b",
          .evaluateInto .source "b" (Record.ofPairs []) .raw "c"] =
        .ok (answers, [("c", Template.parse "\\\x7b"), ("b", Template.constant "\\\x7b"),
          ("a", Template.constant "\x7b")]) ∧
      (∀ template ∈ Session.templates answers [("c", Template.parse "\\\x7b"),
          ("b", Template.constant "\\\x7b"), ("a", Template.constant "\x7b")],
        Template.parse template.source = template) ∧
      Template.parse "\\\x7b" = Template.constant "\x7b" := by
  refine ⟨_, rfl, ?_⟩
  obtain ⟨hfaithful, hsame, -⟩ := @faithful_of_run
    [.create .value "\x7b" "a", .derive (.ofRendering .value) "a" "b",
      .evaluateInto .source "b" (Record.ofPairs []) .raw "c"] _ _ rfl
  refine ⟨hfaithful, (hsame _ ?_ _ ?_).mpr rfl⟩
  · exact List.mem_append_right _ (@Slots.mem_templates_of_get _ "c" _ rfl)
  · exact List.mem_append_right _ (@Slots.mem_templates_of_get _ "a" _ rfl)

end RecordTemplate
