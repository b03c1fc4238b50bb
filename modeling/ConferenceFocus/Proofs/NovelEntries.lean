import ConferenceFocus.Keyed

/-!
# What appending adds

Appending to a list puts behind it what is new to it: the first of each key that is not
taken.  What is appended in several steps is compared with what is appended in one through
`Keyed.novel`, which is that part.
-/

namespace ConferenceFocus

open Keyed (key)

namespace Keyed

variable {α κ : Type} [DecidableEq κ] [Keyed α κ] {entries more : List α}

/-- The entries whose keys are not taken, each key once, at its first occurrence. -/
def novel (entries more : List α) : List α :=
  (more.filter fun entry => !holds entries (key entry)).eraseDupsBy
    fun one other => decide (key one = key other)

@[simp] theorem novel_nil (entries : List α) : novel entries [] = [] := rfl

theorem novel_cons_of_holds {first : α} (taken : holds entries (key first) = true)
    (rest : List α) : novel entries (first :: rest) = novel entries rest := by
  rw [novel, List.filter_cons_of_neg (by simp [taken])]
  rfl

theorem novel_cons_of_not_holds {first : α} (free : ¬ holds entries (key first) = true)
    (rest : List α) :
    novel entries (first :: rest) = first :: novel (entries ++ [first]) rest := by
  rw [novel, List.filter_cons_of_pos (by simp [free]), List.eraseDupsBy_cons, List.filter_filter,
    novel]
  congr 2
  refine List.filter_congr fun entry _ => ?_
  by_cases same : key entry = key first
  · simp [same, holds]
  · simp [same, Ne.symm same, holds]

/-- Appending puts what is new behind what is there. -/
theorem appendAll_eq_append_novel (entries more : List α) :
    appendAll entries more = entries ++ novel entries more := by
  induction more generalizing entries with
  | nil => exact (List.append_nil entries).symm
  | cons first rest ih =>
      by_cases taken : holds entries (key first) = true
      · rw [appendAll_cons, append_of_holds taken, ih, novel_cons_of_holds taken]
      · rw [appendAll_cons, append_of_not_holds taken, ih, novel_cons_of_not_holds taken,
          List.append_assoc, List.singleton_append]

theorem appendAll_appendAll (entries first second : List α) :
    appendAll (appendAll entries first) second = appendAll entries (first ++ second) :=
  List.foldl_append.symm

theorem appendAll_of_holds (taken : ∀ entry ∈ more, holds entries (key entry) = true) :
    appendAll entries more = entries := by
  induction more with
  | nil => rfl
  | cons first rest ih =>
      obtain ⟨firstTaken, restTaken⟩ := List.forall_mem_cons.mp taken
      rw [appendAll_cons, append_of_holds firstTaken, ih restTaken]

/-- What is new depends only on which keys are taken. -/
theorem novel_congr {other : List α}
    (same : ∀ wanted, holds entries wanted = holds other wanted) (more : List α) :
    novel entries more = novel other more := by
  simp only [novel, same]

/-- Keys that are taken besides can be left out afterwards. -/
theorem novel_append_left (besides entries more : List α) :
    novel (besides ++ entries) more =
      (novel entries more).filter fun entry => !holds besides (key entry) := by
  induction more generalizing entries with
  | nil => rfl
  | cons first rest ih =>
      by_cases taken : holds entries (key first) = true
      · rw [novel_cons_of_holds (by simp [taken]), novel_cons_of_holds taken, ih]
      · rw [novel_cons_of_not_holds taken]
        by_cases known : holds besides (key first) = true
        · have same : ∀ wanted, holds (besides ++ entries) wanted =
              holds (besides ++ (entries ++ [first])) wanted := by
            intro wanted
            by_cases isFirst : key first = wanted <;> simp_all [holds]
          rw [novel_cons_of_holds (by simp [known]), List.filter_cons_of_neg (by simp [known]),
            ← ih, novel_congr same]
        · rw [novel_cons_of_not_holds (by simp [taken, known]),
            List.filter_cons_of_pos (by simp [known]), ← ih, List.append_assoc]

/-- What is new to a list is new, as a whole, to each list that has fewer keys. -/
theorem novel_novel {fewer : List α}
    (part : ∀ wanted, holds fewer wanted = true → holds entries wanted = true) (more : List α) :
    novel fewer (novel entries more) = novel entries more := by
  induction more generalizing fewer entries with
  | nil => rfl
  | cons first rest ih =>
      by_cases taken : holds entries (key first) = true
      · rw [novel_cons_of_holds taken]
        exact ih part
      · rw [novel_cons_of_not_holds taken,
          novel_cons_of_not_holds fun known => taken (part _ known), ih]
        intro wanted
        rw [holds_append, holds_append, Bool.or_eq_true, Bool.or_eq_true]
        exact Or.imp_left (part wanted)

/-- A change that keeps keys keeps what is new. -/
theorem novel_map {change : α → α} (keeps : ∀ entry, key (change entry) = key entry)
    (entries more : List α) :
    novel entries (more.map change) = (novel entries more).map change := by
  induction more generalizing entries with
  | nil => rfl
  | cons first rest ih =>
      rw [List.map_cons]
      by_cases taken : holds entries (key first) = true
      · rw [novel_cons_of_holds taken, novel_cons_of_holds (by rwa [keeps]), ih]
      · have same : ∀ wanted, holds (entries ++ [change first]) wanted =
            holds (entries ++ [first]) wanted := by
          simp [holds, keeps]
        rw [novel_cons_of_not_holds taken, novel_cons_of_not_holds (by rwa [keeps]), ih,
          novel_congr same, List.map_cons]

end Keyed

end ConferenceFocus
