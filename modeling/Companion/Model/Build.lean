import Companion.Declaration.Canonical
import Companion.Declaration.Source
import Companion.Diagnostic.Checked
import Companion.Model.Batch
import Companion.Text.Basic

/-! Models from declarations.

All members and methods are looked at, whatever is wrong with others; a model is there only if no
declaration error was reported.
-/

set_option autoImplicit false

namespace Companion

/-- Why a declaration has no model. -/
inductive ModelError where
  | type (error : TypeError)
  | invalidName (name : String)
  | duplicateDeclaration (name : String)
  | defaultAndDerivation (field : String)
  | duplicateField (field : String)
  | ambiguousMember
  | unnamedMember
  | validatorEntries (found : Nat)
  | missingBody (method : String)
  | unknownInterceptor (tag : String)
  | nestedWithoutConverter (field declaration : String)
  | noEncoding (field : String) (type part : TypeRef)
  | invalidIdentifier (name : String)
  | converterCycle (path : List String)
  deriving Repr

namespace ModelError

def message : ModelError → String
  | type e => e.message
  | invalidName name => "`" ++ name ++ "` is not a valid declaration name"
  | duplicateDeclaration name =>
    "The declaration " ++ name ++ " is declared more than once in this batch."
  | defaultAndDerivation field =>
    "The field " ++ field ++ " cannot have both a default value and a derivation."
  | duplicateField field => "The field " ++ field ++ " is declared more than once."
  | ambiguousMember => "A member must name either an accessor or a field, not both."
  | unnamedMember => "A member must name an accessor or a field."
  | validatorEntries found => "Invalid validator: " ++ ValidatorSpec.entryCountMessage found
  | missingBody method => "The method " ++ method ++ " is rewritten but has no body."
  | unknownInterceptor tag =>
    "Unknown interceptor `" ++ tag ++ "` (expected one of: cached, logged)."
  | nestedWithoutConverter field declaration =>
    "The field " ++ field ++ " holds " ++ declaration ++
      ", which does not generate a converter."
  | noEncoding field t part =>
    "The field " ++ field ++ " of type " ++ t.render ++ " cannot be converted: " ++
      part.render ++ " has no structural encoding."
  | invalidIdentifier name => "`" ++ name ++ "` is not a valid identifier"
  | converterCycle path => "Converter cycle: " ++ " -> ".intercalate path

/-- The error at a location, which leaves no value. -/
def reportAt {α : Type} (e : ModelError) (l : Location) : Checked α := .fail l e.message

end ModelError

namespace Model

/-! ### Parts -/

/-- A name that can be part of other names, so neither a keyword nor a raw identifier. -/
def checkIdentifier (l : Location) (name : String) : Checked Unit :=
  if !Text.startsWith "r#" name && Code.isIdent name then .ok
  else (ModelError.invalidIdentifier name).reportAt l

def checkType (l : Location) (text : String) : Checked TypeRef :=
  match TypeRef.parse text with
  | .ok t => pure t
  | .error e => (ModelError.type e).reportAt l

def checkExpression (l : Location) (what text : String) : Checked Unit :=
  if Code.isExpr text then .ok
  else .usageError l "The $ `$` is not a valid expression: $" [what, text, Text.unexplained]

def checkBody (l : Location) (text : String) : Checked Unit :=
  if Code.isBlock ("\x7b " ++ text ++ " \x7d") then .ok
  else .usageError l "The method body `$` is not valid: $" [text, Text.unexplained]

def checkValidator (l : Location) (spec : ValidatorSpec) : Checked Descriptor :=
  match spec.descriptor with
  | .ok d => pure d
  | .error found => (ModelError.validatorEntries found).reportAt l

def checkValidators (l : Location) (specs : List ValidatorSpec) : Checked (List Descriptor) :=
  .all (specs.map (checkValidator l))

/-! ### Fields -/

/-- The name of a member's field, and its accessor. -/
def memberName (m : Declaration.Member) : Except ModelError (String × Option String) :=
  match m.accessor, m.field with
  | some accessor, none => .ok (Naming.fieldOfAccessor accessor, some accessor)
  | none, some field => .ok (field, none)
  | some _, some _ => .error .ambiguousMember
  | none, none => .error .unnamedMember

/-- The name is looked at if the accessor is one, and differs from it. -/
def checkNames (l : Location) (name : String) : Option String → Checked Unit
  | some accessor =>
    if accessor = name then checkIdentifier l name
    else (checkIdentifier l accessor).andThen fun _ => checkIdentifier l name
  | none => checkIdentifier l name

def checkRole (l : Location) (name : String) (m : Declaration.Member) : Checked Role :=
  match m.default, m.derivation with
  | some _, some _ => (ModelError.defaultAndDerivation name).reportAt l
  | some e, none => (fun _ => .defaulted (Text.trim e)) <$> checkExpression l "default value" e
  | none, some e => (fun _ => .derived (Text.trim e)) <$> checkExpression l "derivation" e
  | none, none => pure .settable

def checkField (batch : Batch) (l : Location) (m : Declaration.Member) : Checked Field :=
  match memberName m with
  | .error e => e.reportAt l
  | .ok (name, accessor) =>
    (fun _ type role validators =>
      ⟨name, type, accessor, role, validators, batch.nested? type, l, m.description⟩) <$>
      checkNames l name accessor <*> checkType l m.type <*> checkRole l name m <*>
      checkValidators l m.validators

/-- The fields whose names are not those of earlier ones. -/
def refuseRepeated (seen : List String) : List (Checked Field) → List (Checked Field)
  | [] => []
  | x :: others =>
    match x.value with
    | none => x :: refuseRepeated seen others
    | some f =>
      if seen.contains f.name then
        (x.andThen fun f => (ModelError.duplicateField f.name).reportAt f.location) ::
          refuseRepeated seen others
      else x :: refuseRepeated (f.name :: seen) others

/-- A field that a converter can encode. -/
def checkEncoding (batch : Batch) (f : Field) : Checked Unit :=
  match f.nested with
  | none =>
    match f.type.missingLeaf? batch.isDeclaredType with
    | some part => (ModelError.noEncoding f.name f.type part).reportAt f.location
    | none => .ok
  | some nested =>
    if batch.hasConverter nested.declaration then .ok
    else (ModelError.nestedWithoutConverter f.name nested.declaration).reportAt f.location

/-! ### Methods -/

def checkParameter (l : Location) (method : String) (p : Declaration.Parameter) :
    Checked Parameter :=
  let l := l.withMember (method ++ "(" ++ p.name ++ ")")
  (fun type _ validators => ⟨p.name, type, validators, l⟩) <$>
    checkType l p.type <*> checkIdentifier l p.name <*> checkValidators l p.validators

def checkReturns (l : Location) : Option String → Checked TypeRef
  | some text => checkType l text
  | none => pure .unit

def checkInterceptor (l : Location) (tag : String) : Checked Interceptor :=
  match Interceptor.ofTag? tag with
  | some kind => pure kind
  | none => (ModelError.unknownInterceptor tag).reportAt l

/-- A woven method needs a body. -/
def checkWeaving (m : Method) : Checked Method :=
  if m.isWoven then
    match m.body with
    | none => (ModelError.missingBody m.name).reportAt m.location
    | some body => (fun _ => m) <$> checkBody m.location body
  else pure m

/-- A parameter that can be part of a cache key. -/
def checkKey (p : Parameter) : Checked Unit :=
  if p.type.ownedKey.1.isHashable then .ok
  else .usageError p.location
    "The parameter $ of type $ cannot be part of a cache key (not hashable)."
    [p.name, p.type.render]

/-- A method whose results can be cached, if they are to be. Where there is no result to cache,
the method stands without its cache. -/
def checkCaching (maxCacheArity : Nat) (m : Method) : Checked Method :=
  if !m.isCached then pure m
  else if maxCacheArity < m.parameters.length then
    .failWith m.location "Cannot cache more than $ parameters (method: $)."
      [toString maxCacheArity, m.name]
  else if m.returns.isUnit then
    (fun _ => { m with interceptors := m.interceptors.filter (· ≠ .cached) }) <$>
      Checked.usageError m.location
        "The method $ returns nothing; its result cannot be cached." [m.name]
  else (fun _ => m) <$> Checked.all (m.parameters.map checkKey)

def checkMethod (maxCacheArity : Nat) (l : Location) (m : Declaration.Method) :
    Checked Method :=
  let parts : Checked Method :=
    (fun _ parameters returns interceptors validators =>
      ⟨m.name, parameters, returns, interceptors.eraseDups, validators,
        m.body.map Text.trim, l⟩) <$>
      checkIdentifier l m.name <*> .all (m.parameters.map (checkParameter l m.name)) <*>
      checkReturns l m.returns <*> .all (m.interceptors.map (checkInterceptor l)) <*>
      checkValidators l m.validators
  (parts.andThen checkWeaving).andThen (checkCaching maxCacheArity)

/-! ### Declarations -/

def checkName (l : Location) (name : String) : Checked Unit :=
  if Code.isIdent name then .ok else (ModelError.invalidName name).reportAt l

def reportImplied (l : Location) (kind : ArtifactKind) : Checked Unit :=
  .report .info l "The $ is generated because another requested artifact needs it." [kind.name]

/-- The place of a member, or of its declaration if it has no name. -/
def memberLocation (source : DeclarationSource) (d : Declaration) (m : Declaration.Member) :
    Location :=
  match m.declaredName with
  | some name => source.locateMember d.name name
  | none => source.locate d.name

def checkFields (batch : Batch) (source : DeclarationSource) (d : Declaration) :
    List (Checked Field) :=
  refuseRepeated [] (d.members.map fun m => checkField batch (memberLocation source d m) m)

def checkMethods (batch : Batch) (source : DeclarationSource) (d : Declaration) :
    List (Checked Method) :=
  d.methods.map fun m =>
    checkMethod batch.options.maxCacheArity (source.locateMember d.name m.name) m

def ofDeclaration (batch : Batch) (source : DeclarationSource) (d : Declaration) :
    Checked Model :=
  let l := source.locate d.name
  let fields := checkFields batch source d
  let encodings := if d.generates .converter then
    (Checked.successes fields).map (checkEncoding batch) else []
  (fun _ _ _ fields methods _ =>
    ⟨d.name, d.traitPath, d.artifacts, fields, methods, l, d.hash, d.description⟩) <$>
    checkName l d.name <*> checkType l d.traitPath <*> .all (d.implied.map (reportImplied l)) <*>
    .all fields <*> .all (checkMethods batch source d) <*> .all encodings

end Model

end Companion
