import Tugtainer.Executor.Passes

/-!
# Rules for runs

The contract under which most properties of the executor are proved remembers
all that happened and relies on the answers agreeing with the names. Its rules
for a request, for a line of the log and for a step that leaves an assertion
alone are here.
-/

namespace Tugtainer

open Python Interaction

/-- The contract of the executor: answers agree with the names, and all that
happened is remembered. -/
abbrev runContract (nameOf : String → String) : Contract Agent (Trace Agent) :=
  .history (Agrees nameOf) fun _ _ => True

def Idle (tr : Trace Agent) : Prop := ∀ e ∈ tr, Bookkeeping e.op

theorem idle_nil : Idle [] := fun e he => absurd he (by simp)

theorem Idle.concat {tr : Trace Agent} (h : Idle tr) {e : Event Agent}
    (he : Bookkeeping e.op) : Idle (tr ++ [e]) := by
  intro e' he'
  rcases List.mem_append.1 he' with he' | he'
  · exact h e' he'
  · obtain rfl := List.mem_singleton.1 he'
    exact he

/-- What a proof about the passes says of every run: nothing is asked of the agent
and no item changes, or the last pass ends as proved. -/
theorem PassProof.sound {nameOf : String → String} {env : ExecEnv} {host : HostsModel}
    {containers : HostContainers} {plan : UpdatePlan} {dockerVersion : Option DockerVersion}
    {initial prepared stopped finished : Items → Trace Agent → Prop}
    (P : PassProof (runContract nameOf) env host containers plan dockerVersion Idle initial
      prepared stopped finished)
    {tr : Trace Agent} {result : Except Exn (Option UpdatePlanResult)} {items : Items}
    (run : Execution nameOf env host containers plan dockerVersion tr result items) :
    (Idle tr ∧ Unchanged plan containers [] items) ∨ finished items tr := by
  have hend := Prog.wp_history_sound (P.wp idle_nil) run.runs run.agrees
  cases result <;> exact hend

/-- The operation is a request of one of the kinds for the container. -/
def Asks (kinds : Set Kind) (n : String) (op : Op) : Prop :=
  ∃ site request, op = .agent site request ∧ request.target = some n ∧ request.kind ∈ kinds

/-- The container is created by that part of the executor. -/
def CreatedAt (site : Site) (n : String) (e : Event Agent) : Prop :=
  ∃ body c, e = answered site (.containerCreate body) (.ok c) ∧ body.name = some n

/-- The assertion is kept by the operations for the container `n` of those
kinds. -/
def KeptBy (nameOf : String → String) (n : String) (kinds : Site → Kind → Prop)
    (A : Trace Agent → Prop) : Prop :=
  ∀ tr e, Within nameOf n kinds e.op → Agrees nameOf e → A tr → A (tr ++ [e])

section

variable {nameOf : String → String} {n : String} {kinds : Site → Kind → Prop}
  {P : ItemFields → Prop} {α σ : Type} {V : α → Prop} {s : σ} {tr : Trace Agent}

@[simp] theorem asks_agent {asked : Set Kind} {site : Site} {request : Request} :
    Asks asked n (.agent site request) ↔ request.target = some n ∧ request.kind ∈ asked := by
  simp [Asks]

@[simp] theorem not_asks_log {asked : Set Kind} {line : LogLine} :
    ¬ Asks asked n (.log line) := by
  simp [Asks]

theorem Asks.of_within {asked : Set Kind} {m : String} {op : Op}
    (hasked : ∀ kind ∈ asked, kind ≠ .image ∧ kind ≠ .look) (h : Asks asked m op)
    (hop : Within nameOf n kinds op) : n = m ∧ ∃ site, ∃ kind ∈ asked, kinds site kind := by
  obtain ⟨site, request, rfl, htarget, hkind⟩ := h
  have htarget' := hop.2.target (hasked _ hkind)
  exact ⟨Option.some.inj (htarget'.symm.trans htarget), site, _, hkind, hop.1⟩

theorem CreatedAt.of_within {m : String} {site : Site} {e : Event Agent} (h : CreatedAt site n e)
    (hop : Within nameOf m kinds e.op) : m = n ∧ kinds site .create := by
  obtain ⟨body, c, rfl, hname⟩ := h
  exact ⟨Option.some.inj (hop.2.symm.trans hname), hop.1⟩

theorem not_asks_of_bookkeeping {asked : Set Kind} {op : Op} (h : Bookkeeping op) :
    ¬ Asks asked n op := by
  rintro ⟨site, request, rfl, -⟩
  exact h

theorem KeptBy.and {A B : Trace Agent → Prop} (hA : KeptBy nameOf n kinds A)
    (hB : KeptBy nameOf n kinds B) : KeptBy nameOf n kinds fun tr => A tr ∧ B tr :=
  fun tr e hop hr h => ⟨hA tr e hop hr h.1, hB tr e hop hr h.2⟩

theorem wp_call {site : Site} {request : Request} {Q : request.Result → σ → Trace Agent → Prop}
    {E : Exn → σ → Trace Agent → Prop}
    (hok : ∀ a, AnswerOk nameOf site request a →
      Q a s (tr ++ [answered site request (.ok a)]))
    (hraised : ∀ lost, E .call s (tr ++ [answered site request (.raised lost)])) :
    Act.wp (runContract nameOf) (call site request) Q E s tr := by
  refine ⟨trivial, fun r hr => ?_⟩
  cases r with
  | ok a => exact hok a hr
  | raised lost => exact hraised lost

@[simp] theorem wp_log {line : LogLine} {Q : Unit → σ → Trace Agent → Prop}
    {E : Exn → σ → Trace Agent → Prop} :
    Act.wp (runContract nameOf) (log line) Q E s tr ↔ Q () s (tr ++ [⟨.log line, ()⟩]) :=
  ⟨fun h => h.2 () trivial, fun h => ⟨trivial, fun _ _ => h⟩⟩

theorem wp_attempt {x : ItemM Unit} {Q : UpdatePlanItem → Trace Agent → Prop}
    {E : Exn → UpdatePlanItem → Trace Agent → Prop} {item : UpdatePlanItem}
    (h : Act.wp (runContract nameOf) x (fun _ => Q)
      (fun e item' => Q { item' with errors := item'.errors ++ [e] }) item tr) :
    Act.wp (runContract nameOf) (attempt x) (fun _ => Q) E item tr :=
  (Act.wp_tryCatch _ _).2 (Act.wp_mono h (fun _ _ _ h => h) fun _ _ _ h => h)

theorem StaysIn.wp {x : ItemM α} (hx : StaysIn nameOf n kinds P V x) {A : Trace Agent → Prop}
    (hA : KeptBy nameOf n kinds A) {item : UpdatePlanItem} (hitem : ItemOk nameOf n P item)
    (htr : A tr) :
    Act.wp (runContract nameOf) x (fun a item' tr' => V a ∧ ItemOk nameOf n P item' ∧ A tr')
      (fun _ item' tr' => ItemOk nameOf n P item' ∧ A tr') item tr :=
  Act.Keeps.frame hx A (fun _ _ h => h) (fun _ _ _ _ => trivial)
    (fun tr e h hop hr => hA tr e hop hr h) hitem htr

theorem wp_of_monotone {x : AgentM σ α} {A : Trace Agent → Prop}
    (hA : ∀ tr e, A tr → A (tr ++ [e])) (htr : A tr) :
    Act.wp (runContract nameOf) x (fun _ _ => A) (fun _ _ => A) s tr := by
  have h : (x s).wp (runContract nameOf) (fun _ => A) tr := by
    generalize x s = p
    induction p generalizing tr with
    | ret r => exact htr
    | call op k ih => exact ⟨trivial, fun r _ => ih r (hA tr _ htr)⟩
  refine Prog.wp_mono h ?_
  rintro ⟨_ | _, _⟩ _ h <;> exact h

theorem wp_call_recorded {site : Site} {request : Request} {f : request.Result → AgentM σ α}
    {A : Trace Agent → Prop} (hA : ∀ tr e, A tr → A (tr ++ [e]))
    (hcall : ∀ r, A (tr ++ [answered site request r])) :
    Act.wp (runContract nameOf) (call site request >>= f) (fun _ _ => A) (fun _ _ => A) s tr :=
  Act.wp_seq (fun _ _ => A) (wp_call (fun _ _ => hcall _) fun _ => hcall _)
    fun _ _ _ h => wp_of_monotone hA h

end

end Tugtainer
