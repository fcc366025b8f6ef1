import Mathlib
import NoteTemplate.Command.Tests
import NoteTemplate.Proofs.Expansion.Ranking
import NoteTemplate.Proofs.Text.Caseless

namespace NoteTemplate

section Order

theorem Text.precedes_iff {s t : Text} : s.precedes t = true ↔ s = t ∨ s < t := by
  induction s generalizing t with
  | nil => cases t <;> simp [precedes]
  | cons c s ih =>
      cases t with
      | nil => simp [precedes]
      | cons d t =>
          have lower : c.toNat < d.toNat ↔ c < d := Iff.rfl
          rw [precedes, Bool.or_eq_true, Bool.and_eq_true, decide_eq_true_eq, beq_iff_eq, ih, lower,
            Char.toNat_inj, List.cons_lt_cons_iff, List.cons.injEq, and_or_left]
          exact or_left_comm

theorem Text.precedes_iff_le {s t : Text} : s.precedes t = true ↔ s ≤ t :=
  precedes_iff.trans le_iff_eq_or_lt.symm

def Ascending (categories : List Category) : Prop := categories.Pairwise fun a b => a.name < b.name

theorem ascending_categoriesOf (tests : List FoundTest) : Ascending (categoriesOf tests) := by
  have transitive (s t u : Text) (first : s.precedes t = true) (second : t.precedes u = true) :
      s.precedes u = true := by
    rw [Text.precedes_iff_le] at *
    exact first.trans second
  have total (s t : Text) : (s.precedes t || t.precedes s) = true := by
    rw [Bool.or_eq_true, Text.precedes_iff_le, Text.precedes_iff_le]
    exact le_total s t
  have sorted := List.pairwise_mergeSort transitive total (tests.map (·.category))
  have ordered := sorted.sublist (eraseDups_sublist _)
  have once := pairwise_idxOf_eraseDups ((tests.map (·.category)).mergeSort Text.precedes)
  rw [Ascending, categoriesOf, List.pairwise_map]
  refine (ordered.and once).imp fun {s t} both => ?_
  apply lt_of_le_of_ne (Text.precedes_iff_le.mp both.1)
  intro same
  rw [same] at both
  exact Nat.lt_irrefl _ both.2

end Order

section Requests

/-- What a request asks for: its text without the slashes around it. -/
structure AsksFor (request name : Text) : Prop where
  surrounded : ∃ before after, request = before ++ (name ++ after) ∧
    (∀ c ∈ before, c = '/') ∧ ∀ c ∈ after, c = '/'
  opens : name.head? ≠ some '/'
  ends : name.getLast? ≠ some '/'

theorem trimRequest_eq (request : Text) :
    trimRequest request = (request.dropWhile (· = '/')).rdropWhile (· = '/') := rfl

theorem head?_dropWhile_ne (t : Text) : (t.dropWhile (· = '/')).head? ≠ some '/' := by
  intro slash
  have kept := List.head?_dropWhile_not (· = '/') t
  rw [slash] at kept
  simp at kept

theorem asksFor_trimRequest (request : Text) : AsksFor request (trimRequest request) := by
  refine ⟨⟨request.takeWhile (· = '/'), (request.dropWhile (· = '/')).rtakeWhile (· = '/'),
    ?_, ?_, ?_⟩, ?_, ?_⟩
  · rw [trimRequest_eq, List.rdropWhile_append_rtakeWhile, List.takeWhile_append_dropWhile]
  · intro c member
    simpa using List.mem_takeWhile_imp member
  · intro c member
    simpa using List.mem_rtakeWhile_imp member
  · intro slash
    obtain ⟨t, first⟩ := List.head?_eq_some_iff.mp slash
    obtain ⟨after, split⟩ := List.rdropWhile_prefix (· = '/') (request.dropWhile (· = '/'))
    rw [← trimRequest_eq, first] at split
    apply head?_dropWhile_ne request
    rw [← split]
    rfl
  · rw [trimRequest_eq, List.rdropWhile, List.getLast?_reverse]
    exact head?_dropWhile_ne _

theorem AsksFor.eq_trimRequest {request name : Text} (asks : AsksFor request name) :
    name = trimRequest request := by
  obtain ⟨before, after, rfl, inFront, behind⟩ := asks.surrounded
  have opens : name.dropWhile (· = '/') = name := List.dropWhile_beq_eq_self_of_head?_ne asks.opens
  have ends : name.rdropWhile (· = '/') = name := by
    rw [List.rdropWhile, List.reverse_eq_iff]
    apply List.dropWhile_beq_eq_self_of_head?_ne
    rw [List.head?_reverse]
    exact asks.ends
  rw [trimRequest_eq, List.dropWhile_append_of_pos (by simpa using inFront), List.dropWhile_append,
    opens]
  split
  · rename_i empty
    rw [List.isEmpty_iff.mp empty, List.dropWhile_eq_nil_iff.mpr (by simpa using behind)]
    rfl
  · rw [List.rdropWhile, List.reverse_append, List.dropWhile_append_of_pos (by simpa using behind)]
    exact ends.symm

def Category.IsFor (request : Text) (c : Category) : Prop :=
  ∃ name, AsksFor request name ∧ (c.name = name ∨ ∃ rest, c.name = name ++ '/' :: rest)

theorem Category.answers_trimRequest_iff {request : Text} {c : Category} :
    c.answers (trimRequest request) = true ↔ c.IsFor request := by
  rw [answers, Bool.or_eq_true, beq_iff_eq, Text.isSome_stripPrefix?_iff]
  simp only [List.append_assoc, List.singleton_append]
  constructor
  · intro answered
    exact ⟨trimRequest request, asksFor_trimRequest request, answered⟩
  · intro asked
    obtain ⟨name, asks, answered⟩ := asked
    rwa [← asks.eq_trimRequest]

instance (request : Text) (c : Category) : Decidable (c.IsFor request) :=
  decidable_of_iff _ Category.answers_trimRequest_iff

theorem Category.IsFor.of_name {request : Text} {c d : Category} (asked : c.IsFor request)
    (same : c.name = d.name) : d.IsFor request := by
  rwa [IsFor, ← same]

end Requests

section Selection

variable {all : List Category} {requests : List Text} {request : Text} {s : Selection}
  {c : Category}

namespace Selection

def additions (all : List Category) (s : Selection) (request : Text) : List Text :=
  ((all.filter (·.answers (trimRequest request))).map (·.name)).filter
    fun name => !s.chosen.contains name

theorem add_eq (all : List Category) (s : Selection) (request : Text) :
    s.add all request =
      ⟨s.chosen ++ s.additions all request,
        s.unanswered ++ if s.additions all request = [] then [trimRequest request] else []⟩ := by
  cases added : s.additions all request with
  | nil =>
      rw [additions] at added
      simp only [add, added, List.append_nil, if_true]
  | cons name names =>
      rw [additions] at added
      simp only [add, added, reduceCtorEq, if_false, List.append_nil]

theorem mem_additions {name : Text} :
    name ∈ s.additions all request ↔
      (∃ c ∈ all, c.IsFor request ∧ c.name = name) ∧ name ∉ s.chosen := by
  simp [additions, Category.answers_trimRequest_iff, and_assoc]

theorem additions_eq_nil_iff :
    s.additions all request = [] ↔ ¬ ∃ c ∈ all, c.IsFor request ∧ c.name ∉ s.chosen := by
  rw [List.eq_nil_iff_forall_not_mem, ← not_exists, not_iff_not]
  constructor
  · rintro ⟨name, added⟩
    obtain ⟨⟨c, found, asked, rfl⟩, new⟩ := mem_additions.mp added
    exact ⟨c, found, asked, new⟩
  · rintro ⟨c, found, asked, new⟩
    exact ⟨c.name, mem_additions.mpr ⟨⟨c, found, asked, rfl⟩, new⟩⟩

/-- One request: a category is selected behind it if it was before or is asked for now. -/
theorem name_mem_chosen_add (found : c ∈ all) :
    c.name ∈ (s.add all request).chosen ↔ c.name ∈ s.chosen ∨ c.IsFor request := by
  rw [add_eq, List.mem_append, mem_additions]
  constructor
  · intro selected
    cases selected with
    | inl before => exact .inl before
    | inr added =>
        obtain ⟨⟨d, -, asked, same⟩, -⟩ := added
        exact .inr (asked.of_name same)
  · intro selected
    by_cases before : c.name ∈ s.chosen
    · exact .inl before
    · have asked := selected.resolve_left before
      exact .inr ⟨⟨c, found, asked, rfl⟩, before⟩

/-- All requests: a category is selected behind them if one of them asks for it. -/
theorem name_mem_chosen_foldl (requests : List Text) (found : c ∈ all) :
    c.name ∈ (requests.foldl (add all) ⟨[], []⟩).chosen ↔
      ∃ request ∈ requests, c.IsFor request := by
  induction requests using List.reverseRecOn with
  | nil => simp
  | append_singleton requests request ih =>
      rw [List.foldl_concat, name_mem_chosen_add found, ih]
      simp [or_and_right, exists_or]

end Selection

/-- The request asks for a category that no request before it asks for. -/
def Adds (all : List Category) (earlier : List Text) (request : Text) : Prop :=
  ∃ c ∈ all, c.IsFor request ∧ ∀ asked ∈ earlier, ¬ c.IsFor asked

instance (all : List Category) (earlier : List Text) (request : Text) :
    Decidable (Adds all earlier request) :=
  inferInstanceAs (Decidable (∃ c ∈ all, c.IsFor request ∧ ∀ asked ∈ earlier, ¬ c.IsFor asked))

theorem Selection.additions_foldl_eq_nil_iff :
    (requests.foldl (add all) ⟨[], []⟩).additions all request = [] ↔
      ¬ Adds all requests request := by
  rw [additions_eq_nil_iff, not_iff_not]
  apply exists_congr
  intro c
  apply and_congr_right
  intro found
  rw [name_mem_chosen_foldl requests found]
  simp

theorem selectCategories_snd (all : List Category) (requests : List Text) :
    (selectCategories all requests).2 =
      (requests.foldl (Selection.add all) ⟨[], []⟩).unanswered := by
  cases requests <;> rfl

theorem selectCategories_snd_concat (all : List Category) (requests : List Text)
    (request : Text) :
    (selectCategories all (requests ++ [request])).2 = (selectCategories all requests).2 ++
      if Adds all requests request then [] else [trimRequest request] := by
  rw [selectCategories_snd, selectCategories_snd, List.foldl_concat, Selection.add_eq]
  by_cases adds : Adds all requests request
  · rw [if_pos adds, if_neg (mt Selection.additions_foldl_eq_nil_iff.mp (not_not_intro adds))]
  · rw [if_neg adds, if_pos (Selection.additions_foldl_eq_nil_iff.mpr adds)]

theorem mem_selectCategories_iff :
    c ∈ (selectCategories all requests).1 ↔
      c ∈ all ∧ (requests = [] ∨ ∃ request ∈ requests, c.IsFor request) := by
  cases requests with
  | nil => simp [selectCategories]
  | cons request requests =>
      simp only [selectCategories, List.mem_filter, List.contains_iff_mem, reduceCtorEq, false_or]
      exact and_congr_right fun found => Selection.name_mem_chosen_foldl _ found

theorem Ascending.selectCategories (ascending : Ascending all) (requests : List Text) :
    Ascending (selectCategories all requests).1 := by
  cases requests with
  | nil => exact ascending
  | cons request requests => exact ascending.filter _

theorem unlines_append (lines more : List Text) :
    unlines (lines ++ more) = unlines lines ++ unlines more := List.flatMap_append

def reportOn (color : Bool) (selected : List Category) : Text :=
  if selected.isEmpty then unlines ["no matching categories found".toList]
  else
    (reportTests color [] (selected.map fun c =>
      ([[], paint color "1" c.label], c.tests.map fun t => .run t.path t.file))).err

theorem err_runCategories (color : Bool) (path : Text) (found : all ≠ [])
    (requests : List Text) :
    (runCategories color path all requests).err =
      unlines ((selectCategories all requests).2.map (unansweredWarning all)) ++
        reportOn color (selectCategories all requests).1 := by
  simp only [runCategories, List.isEmpty_eq_false_iff.mpr found, Bool.false_eq_true, if_false]
  rw [reportOn]
  split
  · exact unlines_append _ _
  · simp only [reportTests, Outcome.ofErr, unlines_append, List.nil_append, List.append_assoc]

end Selection

/-- Requests select the categories that one of them asks for, in their order. A request is reported
if all that it asks for is asked for before it, and the reports stand in front of the tests. -/
theorem selectCategories_spec {all : List Category} (ascending : Ascending all)
    (requests : List Text) :
    Ascending (selectCategories all requests).1 ∧
      (∀ c, c ∈ (selectCategories all requests).1 ↔
        c ∈ all ∧ (requests = [] ∨ ∃ request ∈ requests, c.IsFor request)) ∧
      (selectCategories all []).2 = [] ∧
      (∀ request, (selectCategories all (requests ++ [request])).2 =
        (selectCategories all requests).2 ++
          if Adds all requests request then [] else [trimRequest request]) ∧
      ∀ color path, all ≠ [] → (runCategories color path all requests).err =
        unlines ((selectCategories all requests).2.map (unansweredWarning all)) ++
          reportOn color (selectCategories all requests).1 :=
  ⟨ascending.selectCategories requests, fun _ => mem_selectCategories_iff, rfl,
    selectCategories_snd_concat all requests,
    fun color path found => err_runCategories color path found requests⟩

theorem selectCategories_spec_nested :
    let test (names : List Text) : FoundTest := ⟨names, Text.join ['/'] names, .file ⟨#[]⟩⟩
    let all := categoriesOf [test ["work".toList, "c.test.md".toList],
      test ["notes".toList, "old".toList, "b.test.md".toList],
      test ["notes".toList, "a.test.md".toList]]
    let requests := ["/notes/".toList, "none".toList]
    Ascending all ∧ all ≠ [] ∧
      (selectCategories all requests).1.map (·.name) = ["notes".toList, "notes/old".toList] ∧
      (selectCategories all (requests ++ ["work/".toList])).2 = ["none".toList] ∧
      (selectCategories all (requests ++ ["notes/old".toList])).2 =
        ["none".toList, "notes/old".toList] := by
  intro test all requests
  have ascending : Ascending all := ascending_categoriesOf _
  have found : all = [⟨"notes".toList, [test ["notes".toList, "a.test.md".toList]]⟩,
      ⟨"notes/old".toList, [test ["notes".toList, "old".toList, "b.test.md".toList]]⟩,
      ⟨"work".toList, [test ["work".toList, "c.test.md".toList]]⟩] := by
    -- sorting does not unfold in the kernel, so the categories are listed before anything else
    simp only [all, test]
    cbv
  have new : Adds all requests "work/".toList := by
    rw [found]
    decide
  have old : ¬ Adds all requests "notes/old".toList := by
    rw [found]
    decide
  have before : (selectCategories all requests).2 = ["none".toList] := by
    rw [found]
    decide
  obtain ⟨-, -, -, behind, -⟩ := selectCategories_spec ascending requests
  refine ⟨ascending, ?_, ?_, ?_, ?_⟩
  · rw [found]
    exact List.cons_ne_nil _ _
  · rw [found]
    decide
  · rw [behind, if_pos new, before, List.append_nil]
  · rw [behind, if_neg old, before]
    decide

theorem reported_though_found :
    let test (names : List Text) : FoundTest := ⟨names, Text.join ['/'] names, .file ⟨#[]⟩⟩
    let notes : Category := ⟨"notes".toList, [test ["notes".toList, "a.test.md".toList]]⟩
    let old : Category :=
      ⟨"notes/old".toList, [test ["notes".toList, "old".toList, "b.test.md".toList]]⟩
    notes.IsFor "notes".toList ∧ old.IsFor "notes/old".toList ∧
      (selectCategories [notes, old] ["notes".toList, "notes".toList]).2 = ["notes".toList] ∧
      (selectCategories [notes, old] ["notes".toList, "notes/old".toList]).2 =
        ["notes/old".toList] := by
  decide

end NoteTemplate
