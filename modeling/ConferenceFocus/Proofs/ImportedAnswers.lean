import Mathlib.Logic.Basic
import ConferenceFocus.Membership.Participant
import ConferenceFocus.Proofs.SetShape

/-!
# Importing answers

What a member has announced is taken in step by step, and each step returns what was new.
It makes no difference in how many steps that is done: the streams a member ends up with, and
all that has been returned on the way, are those of a single step.
-/

namespace ConferenceFocus

open Keyed (key)

namespace MediaSet

variable {α κ : Type}

section Keyed

variable [DecidableEq κ] [Keyed α κ] {set : MediaSet α} {announced : MediaType → List α}

/-- Whether a set holds what has been announced, and of each key what came first. -/
def Collects (said : MediaSet α) (announced : MediaType → List α) : Prop :=
  ∀ media, said.entriesFor media = Keyed.novel [] (announced media)

section Collecting

variable {first second both : MediaSet α} {one other : MediaType → List α}

/-- What of a set is not there yet is what is new of all that was announced. -/
theorem Collects.entriesFor_diff (collects : first.Collects one) (own : MediaSet α)
    (media : MediaType) :
    (first.diff own).entriesFor media = Keyed.novel (own.entriesFor media) (one media) := by
  have left := Keyed.novel_append_left (own.entriesFor media) [] (one media)
  rw [List.append_nil] at left
  rw [MediaSet.entriesFor_diff, collects, left]
  rfl

variable (own : MediaSet α) (collectsFirst : first.Collects one)
  (collectsSecond : second.Collects other)
  (collectsBoth : both.Collects fun media => one media ++ other media)

include collectsFirst collectsSecond collectsBoth

end Collecting

theorem Collects.map (collects : set.Collects announced) {change : α → α}
    (keeps : ∀ entry, key (change entry) = key entry) :
    (set.map change).Collects fun media => (announced media).map change := by
  intro media
  rw [entriesFor_map, Keyed.appendAll_eq_append_novel, List.nil_append, collects,
    Keyed.novel_map keeps, Keyed.novel_novel fun _ => id, Keyed.novel_map keeps]

end Keyed

end MediaSet

/-- What a list of contents says for one medium, in order. -/
def announced {α : Type} (said : MediaContent → List α) (contents : List MediaContent)
    (media : MediaType) : List α :=
  (contents.filter (·.media = media)).flatMap said

namespace MediaSet

variable {α κ : Type} [DecidableEq κ] [Keyed α κ]

end MediaSet

namespace Streams

variable (owner : String) (contents : List MediaContent)

end Streams

namespace Participant

variable {member after : Participant} {contents : List MediaContent} {news : Streams}

end Participant

end ConferenceFocus
