import Scaffold.Proofs.Manifest.Declarations
import Scaffold.Proofs.Text.BasicLetters
import Scaffold.Proofs.Text.Trimming

/-!
# How the entities of a module are divided

What a request needs to become a handler is said here without the order in which it is looked for: a
method, written with blanks around it and in any case, and a response that names concrete data.  The
entities of a module are divided into those that have all of it and those that lack something, and each of
the latter is reported with the first thing it lacks.  Both lists keep the order of the module, so the
module is put together again by merging them.
-/

namespace Scaffold

open Text

namespace Text

section Blanks

/-- A blank is no basic letter. -/
theorem isAlpha_of_isBlank
    {c : Char}
    (blank : isBlank c = true) :
    c.isAlpha = false := by
  by_contra letter
  simp only [Bool.not_eq_false, isAlpha_iff, isUpper_iff, isLower_iff] at letter
  simp only [isBlank, Bool.or_eq_true, Bool.and_eq_true, decide_eq_true_eq, beq_iff_eq] at blank
  omega

end Blanks

end Text

namespace Manifest

namespace HttpMethod

/-- A text is a method as a manifest may write it: with blanks around it and in any case. -/
def IsWritten
    (method : HttpMethod)
    (text : String) : Prop :=
  ∃ front word back,
    text.toList = front ++ word ++ back ∧
      (∀ c ∈ front, isBlank c = true) ∧ (∀ c ∈ back, isBlank c = true) ∧
      word.map Char.toLower = method.label.toList.map Char.toLower

section Reading

variable {method : HttpMethod} {text : String}

theorem mem_all (method : HttpMethod) : method ∈ all := by
  cases method <;> simp [all]

theorem label_injective : Function.Injective label := by
  intro method method' same
  cases method <;> cases method' <;> simp_all [label]

theorem map_toUpper_label (method : HttpMethod) :
    method.label.toList.map Char.toUpper = method.label.toList := by
  cases method <;> decide

theorem isAlpha_of_mem_label
    {c : Char}
    (member : c ∈ method.label.toList) :
    c.isAlpha = true := by
  have letters : ∀ c ∈ method.label.toList, c.isAlpha = true := by
    cases method <;> simp [label]
  exact letters c member

theorem read?_eq_some_iff_label :
    read? text = some method ↔ (trimList text.toList).map Char.toUpper = method.label.toList := by
  have word : ∀ other : HttpMethod,
      other.label = String.ofList ((trimList text.toList).map Char.toUpper) ↔
        (trimList text.toList).map Char.toUpper = other.label.toList := by
    intro other
    rw [String.ext_iff, String.toList_ofList, eq_comm]
  unfold read?
  constructor
  · exact fun found => (word method).1 (by simpa using List.find?_some found)
  · intro spelled
    have known : (all.find? fun other =>
        other.label = String.ofList ((trimList text.toList).map Char.toUpper)).isSome = true :=
      List.find?_isSome.2 ⟨method, mem_all method, by simpa using (word method).2 spelled⟩
    obtain ⟨other, found⟩ := Option.isSome_iff_exists.1 known
    have same : other.label = method.label := by
      rw [(word method).2 spelled]
      simpa using List.find?_some found
    rw [found, label_injective same]

/-- A text is read as the method that it is the written form of. -/
theorem read?_eq_some_iff :
    read? text = some method ↔ method.IsWritten text := by
  rw [read?_eq_some_iff_label]
  constructor
  · intro spelled
    obtain ⟨front, back, whole, blankFront, blankBack⟩ := exists_eq_append_trimList text.toList
    refine ⟨front, trimList text.toList, back, whole, blankFront, blankBack, ?_⟩
    rw [← spelled, List.map_map]
    exact List.map_congr_left fun c _ => (toLower_toUpper c).symm
  · rintro ⟨front, word, back, whole, blankFront, blankBack, same⟩
    have capitals : word.map Char.toUpper = method.label.toList := by
      have both := congrArg (List.map Char.toUpper) same
      simpa only [List.map_map, Function.comp_def, toUpper_toLower,
        map_toUpper_label] using both
    have solid : ∀ c ∈ word, isBlank c = false := by
      intro c member
      by_contra blank
      have noLetter := isAlpha_of_isBlank (by simpa using blank)
      -- the capital of a blank would be a letter of the method
      have letter := isAlpha_of_mem_label (capitals ▸ List.mem_map_of_mem member)
      rw [isAlpha_toUpper, noLetter] at letter
      cases letter
    rw [whole, trimList_append blankFront solid blankBack, capitals]

end Reading

end HttpMethod

/-- An entity has a method, as the manifest writes it. -/
def Entity.HasMethod
    (entity : Entity)
    (method : HttpMethod) : Prop :=
  ∃ text, entity.method = some text ∧ method.IsWritten text

/-- A list is made of two others, each in its order. -/
inductive Merges {α : Type} : List α → List α → List α → Prop
  | nil : Merges [] [] []
  | left
      {x : α}
      {xs ys zs : List α}
      (later : Merges xs ys zs) :
      Merges (x :: xs) ys (x :: zs)
  | right
      {y : α}
      {xs ys zs : List α}
      (later : Merges xs ys zs) :
      Merges xs (y :: ys) (y :: zs)

namespace Merges

variable {α : Type} {xs ys zs : List α}

theorem sublist_left
    (h : Merges xs ys zs) :
    xs.Sublist zs := by
  induction h with
  | nil => exact .slnil
  | left _ ih => exact ih.cons_cons _
  | right _ ih => exact ih.cons _

theorem sublist_right
    (h : Merges xs ys zs) :
    ys.Sublist zs := by
  induction h with
  | nil => exact .slnil
  | left _ ih => exact ih.cons _
  | right _ ih => exact ih.cons_cons _

end Merges

namespace Project

/-- The response of a request names concrete data. -/
structure RespondsWith
    (project : Project)
    (d response : Declaration) : Prop where
  resolved : ∃ reference, d.entity.response = some reference ∧
    project.resolve? d.module reference = some response
  isData : response.entity.kind = .data
  concrete : response.entity.isAbstract = false

/-- The request of a handler has what it takes, and the handler has it from there. -/
structure Eligible
    (project : Project)
    (h : Handler) : Prop where
  isRequest : h.request.entity.kind = .request
  concrete : h.request.entity.isAbstract = false
  method : h.request.entity.HasMethod h.method
  response : project.RespondsWith h.request h.response

/-- The first thing that an entity lacks to become a handler. -/
inductive Lacks (project : Project) (d : Declaration) : SkipReason → Prop
  | kind
      (other : d.entity.kind ≠ .request) :
      Lacks project d .notARequest
  | concreteness
      (isRequest : d.entity.kind = .request)
      (isAbstract : d.entity.isAbstract = true) :
      Lacks project d .abstract
  | method
      (isRequest : d.entity.kind = .request)
      (concrete : d.entity.isAbstract = false)
      (missing : ∀ method, ¬ d.entity.HasMethod method) :
      Lacks project d (.unresolvedMethod d.entity.method)
  | response
      {method : HttpMethod}
      (isRequest : d.entity.kind = .request)
      (concrete : d.entity.isAbstract = false)
      (hasMethod : d.entity.HasMethod method)
      (missing : ∀ response, ¬ project.RespondsWith d response) :
      Lacks project d (.unresolvedResponse d.entity.response)

section Classification

variable {project : Project} {d e : Declaration} {h : Handler} {reason : SkipReason}

theorem httpMethod?_eq_some_iff
    {entity : Entity}
    {method : HttpMethod} :
    entity.httpMethod? = some method ↔ entity.HasMethod method := by
  simp only [Entity.httpMethod?, Option.bind_eq_some_iff, HttpMethod.read?_eq_some_iff,
    Entity.HasMethod]

theorem httpMethod?_eq_none_iff
    {entity : Entity} :
    entity.httpMethod? = none ↔ ∀ method, ¬ entity.HasMethod method := by
  simp only [Option.eq_none_iff_forall_ne_some, ne_eq, httpMethod?_eq_some_iff]

theorem response?_eq_some_iff :
    project.response? d = some e ↔ project.RespondsWith d e := by
  unfold response?
  constructor
  · intro found
    split at found
    · cases found
    · next reference written =>
        split at found
        · next target resolved =>
            split at found
            · next concrete =>
                cases found
                have both := Entity.isConcreteData_iff.1 concrete
                exact ⟨⟨reference, written, resolved⟩, both.1, both.2⟩
            · cases found
        · cases found
  · rintro ⟨⟨reference, written, resolved⟩, isData, concrete⟩
    simp [written, resolved, Entity.isConcreteData_iff.2 ⟨isData, concrete⟩]

theorem response?_eq_none_iff :
    project.response? d = none ↔ ∀ response, ¬ project.RespondsWith d response := by
  simp only [Option.eq_none_iff_forall_ne_some, ne_eq, response?_eq_some_iff]

/-- An entity becomes the handler that has what it takes. -/
theorem classify_eq_ok_iff_eligible :
    project.classify d = .ok h ↔ h.request = d ∧ project.Eligible h := by
  rw [classify_eq_ok_iff]
  constructor
  · rintro ⟨rfl, isRequest, concrete, read, answered⟩
    exact ⟨rfl, isRequest, concrete, httpMethod?_eq_some_iff.1 read, response?_eq_some_iff.1 answered⟩
  · rintro ⟨rfl, eligible⟩
    exact ⟨rfl, eligible.isRequest, eligible.concrete, httpMethod?_eq_some_iff.2 eligible.method,
      response?_eq_some_iff.2 eligible.response⟩

theorem Lacks.classify_eq
    (lacks : project.Lacks d reason) :
    project.classify d = .error reason := by
  cases lacks with
  | kind other => simp [classify, other]
  | concreteness isRequest isAbstract => simp [classify, isRequest, isAbstract]
  | method isRequest concrete missing =>
      simp [classify, isRequest, concrete, httpMethod?_eq_none_iff.2 missing]
  | response isRequest concrete hasMethod missing =>
      simp [classify, isRequest, concrete, httpMethod?_eq_some_iff.2 hasMethod,
        response?_eq_none_iff.2 missing]

/-- An entity is left out for the first thing that it lacks. -/
theorem classify_eq_error_iff :
    project.classify d = .error reason ↔ project.Lacks d reason := by
  refine ⟨fun failed => ?_, Lacks.classify_eq⟩
  rcases project.classify_cases d with ⟨other, told⟩ | ⟨isRequest, isAbstract, told⟩ |
    ⟨isRequest, concrete, missing, told⟩ | ⟨isRequest, concrete, hasMethod, missing, told⟩ |
    ⟨-, -, -, -, h, told⟩
  all_goals cases told.symm.trans failed
  · exact .kind other
  · exact .concreteness isRequest isAbstract
  · exact .method isRequest concrete (httpMethod?_eq_none_iff.1 missing)
  · obtain ⟨method, read⟩ := Option.ne_none_iff_exists'.1 hasMethod
    exact .response isRequest concrete (httpMethod?_eq_some_iff.1 read)
      (response?_eq_none_iff.1 missing)

end Classification

section Division

variable {project : Project} {module : String} {m : Module}

theorem mem_handlers_iff
    {h : Handler} :
    h ∈ project.handlers module ↔
      h.request ∈ project.declarationsIn module ∧ project.Eligible h := by
  unfold handlers
  rw [List.mem_filterMap]
  constructor
  · rintro ⟨d, among, found⟩
    split at found
    · next h' classified =>
        cases found
        obtain ⟨rfl, eligible⟩ := classify_eq_ok_iff_eligible.1 classified
        exact ⟨among, eligible⟩
    · cases found
  · rintro ⟨among, eligible⟩
    exact ⟨h.request, among, by rw [classify_eq_ok_iff_eligible.2 ⟨rfl, eligible⟩]⟩

theorem mem_skipped_iff
    {name : String}
    {reason : SkipReason} :
    (name, reason) ∈ project.skipped module ↔
      ∃ d ∈ project.declarationsIn module, d.name = name ∧ project.Lacks d reason := by
  unfold skipped
  rw [List.mem_filterMap]
  constructor
  · rintro ⟨d, among, found⟩
    split at found
    · cases found
    · next reason' classified =>
        cases found
        exact ⟨d, among, rfl, classify_eq_error_iff.1 classified⟩
  · rintro ⟨d, among, rfl, lacks⟩
    exact ⟨d, among, by rw [classify_eq_error_iff.2 lacks]⟩

/-- Merged in the order of their declaration, the handlers of a module and the entities left out are the
entities of the module. -/
theorem merges_declarationsIn
    (project : Project)
    (module : String) :
    Merges ((project.handlers module).map fun h => h.request.name)
      ((project.skipped module).map Prod.fst)
      ((project.declarationsIn module).map Declaration.name) := by
  unfold handlers skipped
  induction project.declarationsIn module with
  | nil => exact .nil
  | cons d rest ih =>
      cases classified : project.classify d with
      | ok h =>
          have own : h.request = d := (classify_eq_ok_iff.1 classified).1
          simpa [classified, own] using ih.left
      | error reason => simpa [classified] using ih.right

/-- The entities of a module are divided into its handlers and those left out.

Merged in the order of their declaration, the two lists are the entities of the module, each of them once.
A handler is there for an entity exactly when the entity is a concrete request with a method and with a
response that names concrete data, and it has this method and this response.  Any other entity is left out
for the first thing that it lacks, told with what the manifest says; it is malformed exactly when this is
the method or the response. -/
theorem entities_are_handled_or_left_out
    (known : project.modules.get? module = some m) :
    Merges ((project.handlers module).map fun h => h.request.name)
        ((project.skipped module).map Prod.fst) m.entities.keys ∧
      m.entities.keys.Nodup ∧
      (∀ h, h ∈ project.handlers module ↔
        h.request ∈ declarationsOf (module, m) ∧ project.Eligible h) ∧
      (∀ name reason, (name, reason) ∈ project.skipped module ↔
        ∃ d ∈ declarationsOf (module, m), d.name = name ∧ project.Lacks d reason) ∧
      ∀ d reason, project.Lacks d reason →
        (reason.isMalformed = true ↔
          reason = .unresolvedMethod d.entity.method ∨
            reason = .unresolvedResponse d.entity.response) := by
  have same : project.declarationsIn module = declarationsOf (module, m) := by
    simp [declarationsIn, known]
  have names : (declarationsOf (module, m)).map Declaration.name = m.entities.keys := by
    simp [declarationsOf, OrderedMap.keys, Entries.keys]
  refine ⟨?_, m.entities.distinct, ?_, ?_, ?_⟩
  · rw [← names, ← same]
    exact project.merges_declarationsIn module
  · intro h
    rw [← same]
    exact mem_handlers_iff
  · intro name reason
    rw [← same]
    exact mem_skipped_iff
  · intro d reason lacks
    cases lacks <;> simp [SkipReason.isMalformed]

/-- The entities of a harbour. -/
def harbourEntities : Module where
  entities := ⟨
    [("Boat", { kind := .data }),
     ("GetBoat", { kind := .request, method := some " get\t", response := some "Boat" }),
     ("Base", { kind := .data, isAbstract := true }),
     ("Tow", { kind := .request, isAbstract := true }),
     ("Ask", { kind := .request, method := some "FETCH", response := some "Boat" }),
     ("Sink", { kind := .request, method := some "PUT", response := some "Base" })], by decide⟩

/-- A harbour in which each entity but one lacks something. -/
def harbour : Project where
  settings := { name := "harbour" }
  modules := ⟨[("m", harbourEntities)], by decide⟩

theorem harbour_is_divided :
    harbour.modules.get? "m" = some harbourEntities ∧
      Merges ["GetBoat"] ["Boat", "Base", "Tow", "Ask", "Sink"]
        ["Boat", "GetBoat", "Base", "Tow", "Ask", "Sink"] ∧
      (∃ h ∈ harbour.handlers "m", h.method = .get ∧ h.request.entity.HasMethod .get ∧
        harbour.RespondsWith h.request h.response) ∧
      ∃ d ∈ declarationsOf ("m", harbourEntities), d.name = "Sink" ∧
        harbour.Lacks d (.unresolvedResponse (some "Base")) := by
  have known : harbour.modules.get? "m" = some harbourEntities := rfl
  have handled : (harbour.handlers "m").map (fun h => h.request.name) = ["GetBoat"] := by
    decide +kernel
  have left : (harbour.skipped "m").map Prod.fst = ["Boat", "Base", "Tow", "Ask", "Sink"] := by
    decide +kernel
  have answers : ∃ h ∈ harbour.handlers "m", h.method = .get := by decide +kernel
  have sunk : ("Sink", SkipReason.unresolvedResponse (some "Base")) ∈ harbour.skipped "m" := by
    decide +kernel
  obtain ⟨merged, -, eligible, lacks, -⟩ := entities_are_handled_or_left_out known
  rw [handled, left] at merged
  obtain ⟨h, member, get⟩ := answers
  have whole := ((eligible h).1 member).2
  exact ⟨known, merged, ⟨h, member, get, get ▸ whole.method, whole.response⟩,
    (lacks _ _).1 sunk⟩

end Division

end Project

end Manifest
end Scaffold
