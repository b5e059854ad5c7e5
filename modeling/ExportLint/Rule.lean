import ExportLint.Component
import ExportLint.Complaint

/-!
The guidelines, one rule each. A rule looks at one statement at a time and complains only about
statements that export a component.
-/

namespace ExportLint

inductive Metadata where
  | key
  | name
  | version
  | description
  | type
deriving DecidableEq, Repr, Inhabited

inductive PropText where
  | label
  | description
deriving DecidableEq, Repr, Inhabited

inductive SourceText where
  | name
  | description
deriving DecidableEq, Repr, Inhabited

inductive Rule where
  /-- A component has this metadata. -/
  | required (field : Metadata)
  /-- A prop has this text. -/
  | described (field : PropText)
  /-- An optional prop has a default. -/
  | defaulted
  /-- A text of a source opens as sources do. -/
  | opening (field : SourceText)
  /-- A version holds no timestamp placeholder. -/
  | unstamped
deriving DecidableEq, Repr, Inhabited

inductive Category where
  | correctness
  | pedantic
  | style
deriving DecidableEq, Repr, Inhabited

namespace Category

def name : Category → String
  | correctness => "correctness"
  | pedantic => "pedantic"
  | style => "style"

end Category

def guidelinesUrl (anchor : String) : String :=
  "https://pipedream.com/docs/components/guidelines/" ++ "#" ++ anchor

namespace Metadata

def word : Metadata → String
  | key => "key"
  | name => "name"
  | version => "version"
  | description => "description"
  | type => "type"

end Metadata

namespace PropText

def word : PropText → String
  | label => "label"
  | description => "description"

end PropText

namespace SourceText

def word : SourceText → String
  | name => "name"
  | description => "description"

def opening : SourceText → String
  | name => "New"
  | description => "Emit new"

def plural : SourceText → String
  | name => "names"
  | description => "descriptions"

end SourceText

namespace Rule

def all : List Rule :=
  [required .key, required .name, required .version, required .description, required .type,
    described .label, described .description, defaulted, opening .name, opening .description,
    unstamped]

def id : Rule → String
  | required field => "required-properties-" ++ field.word
  | described field => "props-" ++ field.word
  | defaulted => "default-value-required-for-optional-props"
  | opening field => "source-" ++ field.word
  | unstamped => "no-ts-version"

def category : Rule → Category
  | required _ | described _ | unstamped => .correctness
  | defaulted => .pedantic
  | opening _ => .style

def anchor? : Rule → Option String
  | required _ => some "required-metadata"
  | described _ => some "props"
  | defaulted => some "default-values"
  | opening field => some ("source-" ++ field.word)
  | unstamped => none

def url? (r : Rule) : Option String :=
  r.anchor?.map guidelinesUrl

def placeholder : String := "\x7b\x7bts\x7d\x7d"

/-- Whether `part` stands somewhere in a text. -/
def occurs (part : List Char) : List Char → Bool
  | [] => part.isEmpty
  | c :: cs => part.isPrefixOf (c :: cs) || occurs part cs

/-- Whether a text begins with `opening`. -/
def opens (opening text : String) : Bool :=
  opening.toList.isPrefixOf text.toList

def requiredMessage : Metadata → String
  | .type => "Components must export a type property (\"source\" or \"action\")"
  | field => "Components must export a " ++ field.word ++ " property. See "
      ++ guidelinesUrl "required-metadata"

def describedMessage (field : PropText) (prop : String) : String :=
  "Component prop " ++ prop ++ " must have a " ++ field.word ++ ". See " ++ guidelinesUrl "props"

def defaultedMessage (prop : String) : String :=
  "Component prop " ++ prop ++ " is marked \"optional\", so it may need a \"default\" property."
    ++ " See " ++ guidelinesUrl "default-values"

def openingMessage (field : SourceText) : String :=
  "Source " ++ field.plural ++ " should start with \"" ++ field.opening ++ "\". See "
    ++ guidelinesUrl ("source-" ++ field.word)

def unstampedMessage : String :=
  placeholder ++ " macro should be removed before committing"

def isOptional (p : PropEntry) : Bool :=
  ((p.definition.find? "optional").bind (·.value.truthy?)).getD false

/-- What a rule says of a component that the statement at `span` exports. -/
def examine (r : Rule) (source : String) (span : Span) (c : Component) : List Complaint :=
  match r with
  | required field =>
    if c.contains field.word then [] else [⟨span, requiredMessage field⟩]
  | described field =>
    (c.props.filter fun p => !p.definition.contains field.word).map fun p =>
      ⟨p.property.span, describedMessage field (p.displayName source)⟩
  | defaulted =>
    (c.props.filter fun p => isOptional p && !p.definition.contains "default").map fun p =>
      ⟨p.property.span, defaultedMessage (p.displayName source)⟩
  | opening field =>
    match c.sourceProperty? field.word with
    | some p =>
      match p.value.staticString? with
      | some text =>
        if opens (field.opening ++ " ") text then [] else [⟨p.span, openingMessage field⟩]
      | none => []
    | none => []
  | unstamped =>
    match c.find? "version" with
    | some p =>
      match p.value.staticString? with
      | some text =>
        if occurs placeholder.toList text.toList then [⟨p.span, unstampedMessage⟩] else []
      | none => []
    | none => []

def check (r : Rule) (source : String) (s : Stmt) : List Complaint :=
  match s.component? with
  | some c => r.examine source s.span c
  | none => []

end Rule

end ExportLint
