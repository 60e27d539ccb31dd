import ConventionLint.Annotation.Group

/-! Families of tokens that document one kind of thing, and what can be wrong with a group of one. -/

namespace ConventionLint.Annotation

structure TokenSpec where
  token : String
  required : Bool
  /-- The words that a value may consist of; without any the value is free. -/
  choices : List String
  deriving DecidableEq, Repr

structure Family where
  name : String
  nameToken : String
  tokens : List TokenSpec
  deriving DecidableEq, Repr

inductive Problem where
  | duplicate (token : String)
  | missing (token : String)
  | invalidChoice (value token expected : String)
  deriving DecidableEq, Repr

namespace Family

def accepts (f : Family) (token : String) : Bool := f.tokens.any fun s => s.token == token

def groups (f : Family) (gs : List Group) : List Group := gs.filterMap fun g => g.restrict? f.accepts

def named (f : Family) (gs : List Group) : List (Nat × String) :=
  (f.groups gs).map fun g => (g.line, (g.get? f.nameToken).getD "")

def isSeparator (c : Char) : Bool := c == ',' || c == ' ' || c == '\t'

def wordsOf (value : String) : List String :=
  ((Text.splitBy isSeparator value.toList).filter fun w => !w.isEmpty).map String.ofList

def problemsAt (g : Group) (s : TokenSpec) : List Problem :=
  match g.get? s.token with
  | none => if s.required then [.missing s.token] else []
  | some value =>
    if s.choices.isEmpty then []
    else ((wordsOf value).filter fun w => !s.choices.contains w).map fun w =>
      .invalidChoice w s.token (", ".intercalate s.choices)

def problems (f : Family) (g : Group) : List Problem :=
  g.duplicates.map .duplicate ++ f.tokens.flatMap (problemsAt g)

end Family

def required (token : String) : TokenSpec := ⟨token, true, []⟩

def optional (token : String) : TokenSpec := ⟨token, false, []⟩

def choice (token : String) (choices : List String) : TokenSpec := ⟨token, true, choices⟩

def featureToggle : Family where
  name := "feature_toggle"
  nameToken := ".. toggle_name:"
  tokens :=
    [required ".. toggle_name:",
     choice ".. toggle_implementation:"
      ["ExperimentWaffleFlag", "WaffleFlag", "WaffleSample", "WaffleSwitch", "CourseWaffleFlag",
       "ConfigurationModel", "DjangoSetting", "EnvironmentSetting"],
     required ".. toggle_default:",
     required ".. toggle_description:",
     optional ".. toggle_warning:",
     choice ".. toggle_use_cases:"
      ["temporary", "circuit_breaker", "vip", "opt_out", "opt_in", "open_edx"],
     required ".. toggle_creation_date:",
     optional ".. toggle_target_removal_date:",
     optional ".. toggle_tickets:"]

def setting : Family where
  name := "setting"
  nameToken := ".. setting_name:"
  tokens :=
    [required ".. setting_name:",
     required ".. setting_default:",
     required ".. setting_description:",
     optional ".. setting_warning:"]

def openedxEvent : Family where
  name := "openedx_event"
  nameToken := ".. event_type:"
  tokens :=
    [required ".. event_type:",
     required ".. event_name:",
     required ".. event_description:",
     required ".. event_data:",
     optional ".. event_key_field:",
     optional ".. event_warning:",
     optional ".. event_trigger_repository:"]

def families : List Family := [featureToggle, setting, openedxEvent]

end ConventionLint.Annotation
