/-
Events: what is worth telling while templates are marked and references looked up.
-/
import SourceMark.Tag.Hazard
import SourceMark.Text.Digits

namespace SourceMark

/-- why a tag is left alone -/
inductive Reason where
  | alreadyMarked
  | unsafeCode (hazard : Hazard)
  | nestedGt
  deriving DecidableEq

def Reason.message : Reason → Text
  | .alreadyMarked => "already annotated".toList
  | .unsafeCode h => h.message
  | .nestedGt => "'>' inside an unquoted expression".toList

inductive Event where
  | skipped (tagName : Text) (line : Nat) (reason : Reason)
  | finished (templateId : Text) (markedTags skippedTags : Nat)
  | notFound (templateId : Text) (roots : Nat)
  deriving DecidableEq

namespace Event

/-- the part of the program that an event comes from -/
def origin : Event → Text
  | .skipped .. | .finished .. => "refine.core.instrument".toList
  | .notFound .. => "refine.core.reference".toList

def message : Event → Text
  | .skipped tagName line reason =>
    "Skipping <".toList ++ tagName ++ "> on line ".toList ++ Text.decimal line ++ ": ".toList ++ reason.message
  | .finished templateId markedTags skippedTags =>
    "Instrumented ".toList ++ templateId ++ ": ".toList ++ Text.decimal markedTags ++ " tag(s) annotated, ".toList ++
      Text.decimal skippedTags ++ " skipped".toList
  | .notFound templateId roots =>
    "Template ".toList ++ templateId ++ " not found under ".toList ++ Text.decimal roots ++ " root(s)".toList

end Event

end SourceMark
