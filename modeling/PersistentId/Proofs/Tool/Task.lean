import PersistentId.Proofs.Identifier.Parse
import PersistentId.Tool.Task

/-!
# What the tasks of the tool come to

A task that shows something goes through texts, which are identifiers or protocols, with the context
of a configuration. For each text it finds something to show, or finds nothing, or a fault comes up,
the output being unable to take what is to be shown among them (`Task.finds`). It stops at the first
fault, and fails if it has found nothing for some text (`Task.showing_endsIn`); how it ends does not
depend on the desk that it begins at, but for the output.
-/

namespace PersistentId.Tool

open PersistentId.Action (ok_bind)

/-! ## Outputs -/

namespace Encoding

variable {encoding : Encoding}

theorem takeWhile_not_drop_eq_nil_iff (takes : Char → Bool) (cs : List Char) :
    (cs.drop (cs.takeWhile takes).length).takeWhile (fun c => !takes c) = [] ↔
      ∀ c ∈ cs, takes c = true := by
  induction cs with
  | nil => simp
  | cons c cs ih => cases hc : takes c <;> simp [hc, ih]

/-- **An output takes a text if and only if it takes all its characters.** -/
theorem check_eq_ok_iff {text : String} :
    encoding.check text = .ok () ↔ ∀ c ∈ text.toList, encoding.takes c = true := by
  rw [← takeWhile_not_drop_eq_nil_iff, check]
  split
  · next h => simp [h]
  · next h => simp only [reduceCtorEq, false_iff]; exact h

theorem checkAll_eq_ok_iff {texts : List String} :
    encoding.checkAll texts = .ok () ↔
      ∀ text ∈ texts, ∀ c ∈ text.toList, encoding.takes c = true := by
  induction texts with
  | nil => simp [checkAll]
  | cons text texts ih =>
    rw [List.forall_mem_cons, ← check_eq_ok_iff, ← ih, checkAll]
    cases encoding.check text with
    | error fault =>
      show Except.error fault = _ ↔ _
      simp
    | ok done => simp [ok_bind]

end Encoding

/-! ## Pieces of work -/

namespace Work

variable {α β : Type} {output : Encoding}

theorem outcome_bind (work : Work α) (next : α → Work β) (desk : Desk) :
    (work >>= next).outcome desk =
      match work.outcome desk with
      | (.ok a, left) => (next a).outcome left
      | (.error stop, left) => (.error stop, left) := by
  show (ExceptT.bindCont next (work desk).1) (work desk).2 = _
  simp only [outcome]
  rcases work desk with ⟨a | a, left⟩ <;> rfl

theorem outcome_bind_ok {work : Work α} {next : α → Work β} {desk left : Desk} {a : α}
    (h : work.outcome desk = (.ok a, left)) :
    (work >>= next).outcome desk = (next a).outcome left := by
  rw [outcome_bind, h]

theorem outcome_bind_error {work : Work α} {next : α → Work β} {desk left : Desk} {stop : Stop}
    (h : work.outcome desk = (.error stop, left)) :
    (work >>= next).outcome desk = (.error stop, left) := by
  rw [outcome_bind, h]

theorem outcome_onSite {act : Site.Use α} {stop : Fault → Stop} {desk : Desk}
    {result : Except Fault α} {site : Site} (h : act.outcome desk.site = (result, site)) :
    (onSite act stop).outcome desk = (result.mapError stop, { desk with site }) := by
  show ((act.outcome desk.site).1.mapError stop,
    { desk with site := (act.outcome desk.site).2 }) = _
  simp only [h]

/-- How a piece of work ends, whatever desk with the given output it begins at. -/
def EndsIn (output : Encoding) (work : Work α) (result : Except Stop α) : Prop :=
  ∀ desk, desk.output = output →
    (work.outcome desk).1 = result ∧ (work.outcome desk).2.output = output

namespace EndsIn

variable {work : Work α} {next : α → Work β} {result : Except Stop β}

theorem bind_ok {a : α} (h : EndsIn output work (.ok a)) (hnext : EndsIn output (next a) result) :
    EndsIn output (work >>= next) result := by
  intro desk hdesk
  obtain ⟨hwork, hleft⟩ := h desk hdesk
  rw [outcome_bind]
  rcases hout : work.outcome desk with ⟨stop | a, left⟩ <;> rw [hout] at hwork hleft <;> cases hwork
  exact hnext left hleft

theorem bind_error {stop : Stop} (h : EndsIn output work (.error stop)) :
    EndsIn output (work >>= next) (.error stop) := by
  intro desk hdesk
  obtain ⟨hwork, hleft⟩ := h desk hdesk
  rw [outcome_bind]
  rcases hout : work.outcome desk with ⟨stop | a, left⟩ <;> rw [hout] at hwork hleft <;> cases hwork
  exact ⟨rfl, hleft⟩

end EndsIn

theorem pure_endsIn (a : α) : EndsIn output (pure a) (.ok a) :=
  fun _ h => ⟨rfl, h⟩

theorem throw_endsIn (stop : Stop) : EndsIn output (throw stop : Work α) (.error stop) :=
  fun _ h => ⟨rfl, h⟩

/-- Printing ends as the output takes the text. -/
theorem print_endsIn (text : String) :
    EndsIn output (print text) ((output.check text).mapError .fault) := by
  rintro desk rfl
  cases hcheck : desk.output.check text with
  | error fault =>
    have hprint : (print text).outcome desk = (.error (.fault fault), desk) := by
      simp only [print, outcome, ofOutcome, hcheck]
    exact ⟨congrArg (·.1) hprint, congrArg (·.2.output) hprint⟩
  | ok done =>
    have hprint : (print text).outcome desk =
        (.ok (), { desk with printed := desk.printed ++ text }) := by
      simp only [print, outcome, ofOutcome, hcheck]
    exact ⟨congrArg (·.1) hprint, congrArg (·.2.output) hprint⟩

theorem printAll_endsIn (texts : List String) :
    EndsIn output (printAll texts) ((output.checkAll texts).mapError .fault) := by
  induction texts with
  | nil => exact pure_endsIn _
  | cons text texts ih =>
    have hprint : EndsIn output (print text) _ := print_endsIn text
    rw [printAll, Encoding.checkAll]
    cases hcheck : output.check text with
    | error fault =>
      rw [hcheck] at hprint
      exact hprint.bind_error
    | ok done =>
      rw [hcheck] at hprint
      exact hprint.bind_ok ih

/-- A search ends as what is searched for, a fault being no failure. -/
theorem search_endsIn (parse : Parsing α) :
    EndsIn output (search parse) (parse.result.mapError .fault) :=
  fun _ h => ⟨rfl, h⟩

theorem search_endsIn_ok {parse : Parsing α} {a : α} (h : parse.result = .ok a) :
    EndsIn output (search parse) (.ok a) := by
  have hsearch : EndsIn output (search parse) _ := search_endsIn parse
  rwa [h] at hsearch

theorem search_endsIn_error {parse : Parsing α} {fault : Fault} (h : parse.result = .error fault) :
    EndsIn output (search parse) (.error (.fault fault)) := by
  have hsearch : EndsIn output (search parse) _ := search_endsIn parse
  rwa [h] at hsearch

end Work

/-! ## Texts without an answer -/

section Lacking

variable {find : String → Except Fault Bool} {texts missing : List String}

/-- The texts for which nothing is found, as long as no fault comes up. -/
def lacking (find : String → Except Fault Bool) : List String → Except Fault (List String)
  | [] => .ok []
  | s :: texts =>
    match find s with
    | .error fault => .error fault
    | .ok true => lacking find texts
    | .ok false => (lacking find texts).map (s :: ·)

theorem lacking_eq_ok (h : ∀ s ∈ texts, ∃ found, find s = .ok found) :
    lacking find texts = .ok (texts.filter fun s => (find s).toOption = some false) := by
  induction texts with
  | nil => rfl
  | cons s texts ih =>
    obtain ⟨hs, hrest⟩ := List.forall_mem_cons.1 h
    obtain ⟨found, hfound⟩ := hs
    rw [lacking, hfound]
    cases found with
    | true =>
      rw [List.filter_cons_of_neg (by simp [hfound, Except.toOption])]
      exact ih hrest
    | false =>
      rw [List.filter_cons_of_pos (by simp [hfound, Except.toOption])]
      exact congrArg (Except.map (s :: ·)) (ih hrest)

theorem lacking_eq_error (h : ∃ s ∈ texts, ∃ fault, find s = .error fault) :
    ∃ s ∈ texts, ∃ fault, find s = .error fault ∧ lacking find texts = .error fault := by
  induction texts with
  | nil => simp at h
  | cons s texts ih =>
    rw [lacking]
    cases hfind : find s with
    | error fault => exact ⟨s, List.mem_cons_self, fault, hfind, rfl⟩
    | ok found =>
      have hrest : ∃ t ∈ texts, ∃ fault, find t = .error fault := by simpa [hfind] using h
      obtain ⟨t, ht, fault, hfault, hlacking⟩ := ih hrest
      refine ⟨t, List.mem_cons_of_mem _ ht, fault, hfault, ?_⟩
      cases found <;> simp [hlacking, Except.map]

end Lacking

/-! ## Tasks -/

section Finding

variable {output : Encoding} {context : Context}

/-- Whether a text is identified with a context, what is shown of it being taken by the output. -/
def identified (output : Encoding) (context : Context) (s : String) : Except Fault Bool := do
  match ← (Dispatcher.parse context (.str s)).result with
  | some pid => (output.checkAll (identifierLines s pid)).map fun _ => true
  | none => (output.check (unknownLine s)).map fun _ => false

/-- A provider can be shown for a protocol if its lines can be made and are taken by the output. -/
def showable (output : Encoding) (protocol : String) (provider : Provider) : Except Fault Unit := do
  output.check (← providerLine protocol provider)
  output.check (← scopeLine provider)

/-- Whether there is a provider for a protocol in a context, which has to be one that can be
shown. -/
def provided (output : Encoding) (context : Context) (protocol : String) : Except Fault Bool := do
  match ← (Dispatcher.providerFor {} context (.str protocol)).result with
  | some provider => (showable output protocol provider).map fun _ => true
  | none => (output.check (missingLine protocol)).map fun _ => false

section GoingThrough

variable {α : Type} {find : String → Except Fault Bool} {s : String} {texts : List String}
  {f : List String → α} {shown : Work Unit} {rest : Work α} {check : Except Fault Unit}

/-- What is found for a text is shown before the other texts are gone through. -/
theorem found_endsIn (hfind : find s = check.map fun _ => true)
    (hshown : Work.EndsIn output shown (check.mapError .fault))
    (hrest : Work.EndsIn output rest (((lacking find texts).map f).mapError .fault)) :
    Work.EndsIn output (shown >>= fun _ => rest)
      (((lacking find (s :: texts)).map f).mapError .fault) := by
  rw [lacking, hfind]
  cases check with
  | error fault => exact hshown.bind_error
  | ok done => exact hshown.bind_ok hrest

/-- A text for which nothing is found is shown, and counts behind the others. -/
theorem missing_endsIn {g : α → α} (hg : ∀ missing, f (s :: missing) = g (f missing))
    (hfind : find s = check.map fun _ => false)
    (hshown : Work.EndsIn output shown (check.mapError .fault))
    (hrest : Work.EndsIn output rest (((lacking find texts).map f).mapError .fault)) :
    Work.EndsIn output (shown >>= fun _ => rest >>= fun a => pure (g a))
      (((lacking find (s :: texts)).map f).mapError .fault) := by
  rw [lacking, hfind]
  cases check with
  | error fault => exact hshown.bind_error
  | ok done =>
    refine hshown.bind_ok ?_
    simp only [Except.map]
    cases hlacking : lacking find texts with
    | error fault =>
      rw [hlacking] at hrest
      exact hrest.bind_error
    | ok missing =>
      rw [hlacking] at hrest
      simp only [hg]
      exact hrest.bind_ok (Work.pure_endsIn _)

end GoingThrough

theorem parseEach_endsIn (texts : List String) :
    Work.EndsIn output (parseEach (some context) texts)
      (((lacking (identified output context) texts).map List.length).mapError .fault) := by
  induction texts with
  | nil => exact Work.pure_endsIn 0
  | cons s texts ih =>
    have hsearch : (identifierIn (some context) s).result =
        (Dispatcher.parse context (.str s)).result := rfl
    rw [parseEach]
    cases hfound : (Dispatcher.parse context (.str s)).result with
    | error fault =>
      rw [lacking, identified, hfound]
      exact (Work.search_endsIn_error (hsearch.trans hfound)).bind_error
    | ok found =>
      refine (Work.search_endsIn_ok (hsearch.trans hfound)).bind_ok ?_
      cases found with
      | some pid =>
        have hfind : identified output context s =
            (output.checkAll (identifierLines s pid)).map fun _ => true := by
          rw [identified, hfound, ok_bind]
        exact found_endsIn hfind (Work.printAll_endsIn _) ih
      | none =>
        have hfind : identified output context s =
            (output.check (unknownLine s)).map fun _ => false := by
          rw [identified, hfound, ok_bind]
        exact missing_endsIn (fun _ => rfl) hfind (Work.print_endsIn _) ih

theorem showProvider_endsIn (protocol : String) (provider : Provider) :
    Work.EndsIn output (showProvider protocol provider)
      ((showable output protocol provider).mapError .fault) := by
  rw [showProvider, showable]
  cases hprovider : providerLine protocol provider with
  | error fault => exact Work.EndsIn.bind_error (Work.search_endsIn_error rfl)
  | ok line =>
    refine (Work.search_endsIn_ok rfl).bind_ok ?_
    have hprint : Work.EndsIn output (Work.print line) _ := Work.print_endsIn line
    rw [ok_bind]
    cases hcheck : output.check line with
    | error fault =>
      rw [hcheck] at hprint
      exact hprint.bind_error
    | ok done =>
      rw [hcheck] at hprint
      refine hprint.bind_ok ?_
      cases hscope : scopeLine provider with
      | error fault => exact Work.EndsIn.bind_error (Work.search_endsIn_error rfl)
      | ok line => exact (Work.search_endsIn_ok rfl).bind_ok (Work.print_endsIn _)

theorem showEach_endsIn (protocols : List String) :
    Work.EndsIn output (showEach context protocols)
      (((lacking (provided output context) protocols).map id).mapError .fault) := by
  induction protocols with
  | nil => exact Work.pure_endsIn []
  | cons protocol protocols ih =>
    rw [showEach]
    cases hfound : (Dispatcher.providerFor {} context (.str protocol)).result with
    | error fault =>
      rw [lacking, provided, hfound]
      exact (Work.search_endsIn_error hfound).bind_error
    | ok found =>
      refine (Work.search_endsIn_ok hfound).bind_ok ?_
      cases found with
      | some provider =>
        have hfind : provided output context protocol =
            (showable output protocol provider).map fun _ => true := by
          rw [provided, hfound, ok_bind]
        exact found_endsIn hfind (showProvider_endsIn protocol provider) ih
      | none =>
        have hfind : provided output context protocol =
            (output.check (missingLine protocol)).map fun _ => false := by
          rw [provided, hfound, ok_bind]
        exact missing_endsIn (fun _ => rfl) hfind (Work.print_endsIn _) ih

end Finding

namespace Task

/-- A task shows something with the context of a configuration. -/
def Shows : Task → Prop
  | .parse _ | .providers _ => True
  | .validate .. => False

/-- What a task does with a context. -/
def showing : Task → Context → Work Unit
  | .parse pids, context => parseAll (some context) pids
  | .providers protocols, context => showProviders context protocols
  | .validate protocol authority identifier, _ => checkParts protocol authority identifier

/-- The texts that a task goes through. -/
def texts : Task → List String
  | .parse pids => pids
  | .providers protocols => if protocols.isEmpty then Dispatcher.protocols {} else protocols
  | .validate .. => []

/-- Whether a task finds something to show for a text, as long as no fault comes up. That the output
cannot take what is shown is one. -/
def finds : Task → Encoding → Context → String → Except Fault Bool
  | .parse _ => identified
  | .providers _ => provided
  | .validate .. => fun _ _ _ => .ok true

/-- The failure of a task that finds nothing for some texts. -/
def lack (missing : List String) : Task → Failure
  | .parse pids => .notRecognized missing.length pids.length
  | .providers _ => .noProvider missing
  | .validate protocol authority identifier => .invalidParts protocol authority identifier

variable {task : Task} {output : Encoding}

theorem exitCode_lack (task : Task) (missing : List String) : (task.lack missing).exitCode = 1 := by
  cases task <;> rfl

theorem perform_eq (hs : task.Shows) (path : String) :
    task.perform (some path) = readContext path >>= task.showing := by
  cases task with
  | validate => cases hs
  | parse | providers => rfl

/-- How a task ends whose texts without an answer are known. -/
def ending (task : Task) : Except Fault (List String) → Except Stop Unit
  | .error fault => .error (.fault fault)
  | .ok missing => if missing.isEmpty then .ok () else .error (.failure (task.lack missing))

/-- What is done with the texts without an answer is done behind the search for them. -/
theorem bind_endsIn {α : Type} {each : Work α} {finish : α → Work Unit} {f : List String → α}
    {outcome : Except Fault (List String)}
    (heach : Work.EndsIn output each ((outcome.map f).mapError .fault))
    (hfinish : ∀ missing, Work.EndsIn output (finish (f missing)) (task.ending (.ok missing))) :
    Work.EndsIn output (each >>= finish) (task.ending outcome) := by
  cases outcome with
  | error fault => exact heach.bind_error
  | ok missing => exact heach.bind_ok (hfinish missing)

/-- **A task with a context stops at the first fault, and fails if it has found nothing for some
text.** -/
theorem showing_endsIn (hs : task.Shows) (context : Context) :
    Work.EndsIn output (task.showing context)
      (task.ending (lacking (task.finds output context) task.texts)) := by
  cases task with
  | validate => cases hs
  | parse pids =>
    refine bind_endsIn (parseEach_endsIn pids) fun missing => ?_
    cases missing with
    | nil => exact Work.pure_endsIn _
    | cons s missing => exact Work.throw_endsIn _
  | providers protocols =>
    refine bind_endsIn (showEach_endsIn (texts (.providers protocols))) fun missing => ?_
    cases missing with
    | nil => exact Work.pure_endsIn _
    | cons s missing => exact Work.throw_endsIn _

/-! ### Endings -/

/-- A fault comes up with one of the texts of a task. -/
def Stumbles (task : Task) (output : Encoding) (context : Context) : Prop :=
  ∃ s ∈ task.texts, ∃ fault, task.finds output context s = .error fault

/-- A task gets through its texts, and finds nothing for one of them. -/
def Lacks (task : Task) (output : Encoding) (context : Context) : Prop :=
  (∀ s ∈ task.texts, ∃ found, task.finds output context s = .ok found) ∧
    ∃ s ∈ task.texts, task.finds output context s = .ok false

/-- A task finds something for each of its texts. -/
def Answers (task : Task) (output : Encoding) (context : Context) : Prop :=
  ∀ s ∈ task.texts, task.finds output context s = .ok true

variable {context : Context}

theorem Stumbles.not_all (h : task.Stumbles output context) :
    ¬∀ s ∈ task.texts, ∃ found, task.finds output context s = .ok found := by
  obtain ⟨s, hs, fault, hfault⟩ := h
  intro hall
  obtain ⟨found, hfound⟩ := hall s hs
  rw [hfault] at hfound
  cases hfound

theorem Stumbles.exists_ending (h : task.Stumbles output context) :
    ∃ fault, task.ending (lacking (task.finds output context) task.texts) =
      .error (.fault fault) := by
  obtain ⟨_, _, fault, _, hlacking⟩ := lacking_eq_error h
  exact ⟨fault, by rw [hlacking]; rfl⟩

theorem Lacks.exists_ending (h : task.Lacks output context) :
    ∃ failure, task.ending (lacking (task.finds output context) task.texts) =
      .error (.failure failure) ∧ failure.exitCode = 1 := by
  obtain ⟨hall, s, hs, hfalse⟩ := h
  have hmem : s ∈ task.texts.filter fun s => (task.finds output context s).toOption = some false :=
    List.mem_filter.2 ⟨hs, by simp [hfalse, Except.toOption]⟩
  have hne : ¬(task.texts.filter fun s =>
      (task.finds output context s).toOption = some false).isEmpty = true := fun h =>
    List.ne_nil_of_mem hmem (List.isEmpty_iff.1 h)
  rw [lacking_eq_ok hall, ending, if_neg hne]
  exact ⟨_, rfl, exitCode_lack task _⟩

theorem Answers.ending_eq (h : task.Answers output context) :
    task.ending (lacking (task.finds output context) task.texts) = .ok ⟨⟩ := by
  have hnone :
      (task.texts.filter fun s => (task.finds output context s).toOption = some false) = [] :=
    List.filter_eq_nil_iff.2 fun s hs => by simp [h s hs, Except.toOption]
  rw [lacking_eq_ok fun s hs => ⟨true, h s hs⟩, hnone]
  rfl

/-- One of these is the case, and only one. -/
theorem stumbles_or_lacks_or_answers (task : Task) (output : Encoding) (context : Context) :
    (task.Stumbles output context ∧ ¬task.Lacks output context ∧ ¬task.Answers output context) ∨
      (¬task.Stumbles output context ∧ task.Lacks output context ∧
        ¬task.Answers output context) ∨
      (¬task.Stumbles output context ∧ ¬task.Lacks output context ∧
        task.Answers output context) := by
  by_cases hstumbles : task.Stumbles output context
  · exact .inl ⟨hstumbles, fun h => hstumbles.not_all h.1,
      fun h => hstumbles.not_all fun s hs => ⟨true, h s hs⟩⟩
  have hall : ∀ s ∈ task.texts, ∃ found, task.finds output context s = .ok found := fun s hs => by
    cases hfind : task.finds output context s with
    | ok found => exact ⟨found, rfl⟩
    | error fault => exact absurd ⟨s, hs, fault, hfind⟩ hstumbles
  by_cases hlacks : ∃ s ∈ task.texts, task.finds output context s = .ok false
  · refine .inr (.inl ⟨hstumbles, ⟨hall, hlacks⟩, fun h => ?_⟩)
    obtain ⟨s, hs, hfalse⟩ := hlacks
    rw [h s hs] at hfalse
    cases hfalse
  · refine .inr (.inr ⟨hstumbles, fun h => hlacks h.2, fun s hs => ?_⟩)
    obtain ⟨found, hfound⟩ := hall s hs
    cases found with
    | true => exact hfound
    | false => exact absurd ⟨s, hs, hfound⟩ hlacks

end Task

end PersistentId.Tool
