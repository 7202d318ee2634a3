import Pager.Bucket.Basic

namespace Pager.Bucket

/-- An object of a listing as the client tells of it. -/
structure Object where
  key : Option String
  size : Option Int
  /-- A point in time, as it is written; some cannot be. -/
  lastModified : Option (Option String)
  eTag : Option String
  storageClass : Option String
  deriving DecidableEq, Repr

/-- An answer to a request as the client tells of it. -/
structure Listing where
  contents : List Object
  /-- The groups of keys; one without a common start has none to tell. -/
  groups : List (Option String)
  keyCount : Option Int
  isTruncated : Option Bool
  nextContinuationToken : Option String
  deriving DecidableEq, Repr

/-- A failed request: all of its causes in one text, and each of them, the innermost last. -/
structure Failure where
  text : String
  causes : List String
  deriving DecidableEq, Repr

/-- A client of the service that holds the buckets, with the region it was made for. How it finds the
service, signs and repeats a request and reads the answer is its own; what it tells may depend on
everything it was asked before. -/
structure Client (State : Type) where
  region : Option String
  list : State → Request → State × Except Failure Listing

/-- A client whose service cannot be reached. -/
def Client.unreachable {State : Type} (region : Option String) : Client State where
  region
  list now _ := (now, .error ⟨"dispatch failure", []⟩)

def Object.summary (o : Object) : ObjectSummary where
  key := o.key
  size := o.size
  lastModified := o.lastModified.join
  eTag := o.eTag
  storageClass := o.storageClass

def Listing.page (l : Listing) : Page where
  contents := l.contents.map Object.summary
  commonPrefixes := l.groups.filterMap id
  keyCount := l.keyCount
  isTruncated := l.isTruncated
  nextContinuationToken := l.nextContinuationToken

/-- The page of an answer; a failure is a foreign fault until it is normalized. -/
def read : Except Failure Listing → Except Fault Page
  | .ok listing => .ok listing.page
  | .error failure => .error (.foreign failure.text failure.causes)

/-- The operation that asks a client for the pages of a bucket. -/
def operation {State : Type} (client : Client State) : Operation State Request Page where
  name := operationName
  fetch now request :=
    let (later, answer) := client.list now request
    (later, read answer)
  normalize := normalize client.region

end Pager.Bucket
