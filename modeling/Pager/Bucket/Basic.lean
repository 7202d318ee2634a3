import Pager.Page
import Pager.Paging.Walk
import Pager.Parameters

namespace Pager.Bucket

/-- What a caller asks of a listing: a bucket, what the keys begin with, up to which delimiter they
are grouped, and how many a page may hold. -/
structure Filter where
  bucket : String
  keyPrefix : Option String
  delimiter : Option String
  maxKeys : Option Int
  deriving DecidableEq, Repr

def parameterNames : List String :=
  ["Bucket", "Prefix", "Delimiter", "MaxKeys"]

namespace Filter

/-- The value of a parameter under its own spelling. -/
def value (f : Filter) (name : String) : Json :=
  if name = "Bucket" then .text f.bucket
  else if name = "Prefix" then .ofOption f.keyPrefix
  else if name = "Delimiter" then .ofOption f.delimiter
  else match f.maxKeys with
    | some n => .number (.whole n)
    | none => .null

def invocation (f : Filter) : Invocation where
  parameter? name := (parameterNames.find? fun own => Text.sameName own name).map f.value
  hasParameter name := parameterNames.any fun own => Text.sameName own name
  primary? := parameterNames.head?

end Filter

/-- One call of a listing. -/
structure Request where
  filter : Filter
  continuationToken : Option String
  deriving DecidableEq, Repr

def Filter.request (f : Filter) : Request :=
  ⟨f, none⟩

instance : CursorRequest Request where
  setCursor request cursor := { request with continuationToken := cursor }

instance : LawfulCursorRequest Request := ⟨fun _ _ _ => rfl⟩

structure ObjectSummary where
  key : Option String
  size : Option Int
  lastModified : Option String
  eTag : Option String
  storageClass : Option String
  deriving DecidableEq, Repr

structure Page where
  contents : List ObjectSummary
  commonPrefixes : List String
  keyCount : Option Int
  isTruncated : Option Bool
  nextContinuationToken : Option String
  deriving DecidableEq, Repr

def wholeOrNull (n : Option Int) : Json :=
  match n with
  | some i => .number (.whole i)
  | none => .null

def ObjectSummary.toJson (o : ObjectSummary) : Json :=
  .object [
    ("ETag", .ofOption o.eTag), ("Key", .ofOption o.key),
    ("LastModified", .ofOption o.lastModified), ("Size", wholeOrNull o.size),
    ("StorageClass", .ofOption o.storageClass)]

def Page.toJson (p : Page) : Json :=
  .object [
    ("CommonPrefixes", .list (p.commonPrefixes.map Json.text)),
    ("Contents", .list (p.contents.map ObjectSummary.toJson)),
    ("IsTruncated", match p.isTruncated with
      | some b => .bool b
      | none => .null),
    ("KeyCount", wholeOrNull p.keyCount),
    ("NextContinuationToken", .ofOption p.nextContinuationToken)]

instance : Viewable Page where
  toJson := Page.toJson

instance : CursorPage Page := ⟨Page.nextContinuationToken⟩

/-- Where a page holds its records. -/
def recordsPath : String := "Contents"

def operationName : String := "ListObjectsV2"

/-- The name under which a failed lookup of the service is told. -/
def endpointName (region : Option String) : String :=
  match region with
  | some region => s!"s3.{region}.amazonaws.com"
  | none => "s3"

/-- A failed lookup is told as one, and any other foreign fault as one of the operation. -/
def normalize (region : Option String) (fault : Fault) : Fault :=
  match fault.normalizeLookup (endpointName region) with
  | .foreign text _ => .service operationName text
  | other => other

end Pager.Bucket
