import Companion.Declaration.Basic
import Companion.Json.Basic

/-! What became of the declarations of a run. -/

set_option autoImplicit false

namespace Companion

inductive Outcome where
  /-- Every unit was written. -/
  | generated
  /-- Some unit could not be written. -/
  | incomplete
  /-- The declaration has an error, and nothing was written. -/
  | failed
  deriving DecidableEq, Repr, Inhabited

def Outcome.name : Outcome → String
  | generated => "generated"
  | incomplete => "incomplete"
  | failed => "failed"

/-- A unit that was handed to a sink. -/
structure ArtifactRecord where
  kind : ArtifactKind
  outputName : String
  fileName : String
  isWritten : Bool
  deriving DecidableEq, Repr

structure DeclarationRecord where
  declaration : String
  sourceFile : Option String
  hash : String
  outcome : Outcome
  artifacts : List ArtifactRecord
  deriving DecidableEq, Repr, Inhabited

namespace DeclarationRecord

def writtenFiles (r : DeclarationRecord) : List String :=
  (r.artifacts.filter (·.isWritten)).map (·.fileName)

end DeclarationRecord

/-- The declarations of a run in order. -/
structure Report where
  declarations : List DeclarationRecord
  deriving DecidableEq, Repr, Inhabited

namespace Report

def count (r : Report) (outcome : Outcome) : Nat :=
  r.declarations.countP fun d => d.outcome == outcome

def isSuccess (r : Report) : Bool := r.declarations.all fun d => d.outcome == .generated

def writtenFiles (r : Report) : List String :=
  r.declarations.flatMap DeclarationRecord.writtenFiles

/-- The counts in one line. -/
def summary (r : Report) : String :=
  toString (r.count .generated) ++ " generated, " ++ toString (r.count .incomplete) ++
    " incomplete, " ++ toString (r.count .failed) ++ " failed"

end Report

def ArtifactRecord.toJson (r : ArtifactRecord) : Json := .object [
  ("kind", .text r.kind.name), ("output_name", .text r.outputName),
  ("file_name", .text r.fileName), ("written", .bool r.isWritten)]

def DeclarationRecord.toJson (r : DeclarationRecord) : Json := .object [
  ("declaration", .text r.declaration),
  ("source_file", (r.sourceFile.map Json.text).getD .null), ("hash", .text r.hash),
  ("outcome", .text r.outcome.name),
  ("artifacts", .array (r.artifacts.map ArtifactRecord.toJson))]

def Report.toJson (r : Report) : Json := .object [
  ("declarations", .array (r.declarations.map DeclarationRecord.toJson))]

end Companion
