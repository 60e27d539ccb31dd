import ConventionLint.Annotation.Family
import ConventionLint.Rule.AnnotatedCall

/-! What an annotation of an event has to say, and that every event has one. -/

namespace ConventionLint.Rule.EventAnnotation
open ConventionLint.Annotation (Group)
open ConventionLint.Check
open ConventionLint.Report (Message)
open ConventionLint.Tree (NodeId)

def noType : Message :=
  ⟨"E7680", "event-no-type", "event annotation has no type",
    "Events annotations type must be present and be the first annotation"⟩

def noName : Message :=
  ⟨"E7681", "event-no-name", "event annotation (\x7b\x7d) has no name",
    "Events annotations name must be present"⟩

def noData : Message :=
  ⟨"E7682", "event-no-data", "event annotation (\x7b\x7d) has no data argument",
    "Events annotations must include data argument"⟩

/-- Stands for a token that events do not have yet. -/
def noStatus : Message :=
  ⟨"E7683", "event-no-status", "event annotation (\x7b\x7d) has no status",
    "Events annotations must include the status of event"⟩

def emptyDescription : Message :=
  ⟨"E7684", "event-empty-description",
    "event annotation (\x7b\x7d) does not have a description",
    "Events annotations must include a short description"⟩

def missingAnnotation : Message :=
  ⟨"E7685", "event-missing-annotation", "missing event annotation",
    "When an Open edX event object is created, a corresponding annotation must be present above in the same module and with a matching name"⟩

def incorrectAnnotation : Message :=
  ⟨"E7686", "event-incorrect-annotation",
    "event (\x7b\x7d) does not match its annotation (\x7b\x7d)",
    "The annotation preceding an event must document that event"⟩

def typeExpr? (t : Tree) (i : NodeId) : Option NodeId :=
  (t.keywordValue? i "event_type").or (t.args i).head?

def subject : AnnotatedCall.Subject where
  family := Annotation.openedxEvent
  functions := ["OpenEdxPublicSignal"]
  nameExpr? := typeExpr?
  missing := missingAnnotation
  incorrect := incorrectAnnotation

def noteIfEmpty (token : String) (m : Message) (args : List String) (g : Group) : List Note :=
  if ((g.get? token).getD "").isEmpty then [.atLine m g.line args] else []

def notesOnGroup (g : Group) : List Note :=
  let type := (g.get? ".. event_type:").getD ""
  noteIfEmpty ".. event_type:" noType [] g ++
  noteIfEmpty ".. event_name:" noName [type] g ++
  noteIfEmpty ".. event_data:" noData [type] g ++
  noteIfEmpty ".. event_description:" emptyDescription [type] g

def checker : Checker where
  name := "events-annotations"
  description := "Checks that Open edX events are annotated"
  messages :=
    [noType, noName, noData, noStatus, emptyDescription, missingAnnotation, incorrectAnnotation]
  State := Annotation.Matcher
  initial := .ofGroups []
  handlers :=
    [AnnotatedCall.start subject notesOnGroup, AnnotatedCall.finish subject,
     AnnotatedCall.gather subject]

end ConventionLint.Rule.EventAnnotation
