/-!
# Endpoints

The paths of the LFS API below the address of the service, and the media type of its messages.
-/

namespace LargeFiles.Remote.Endpoint

def batch : String := "objects/batch"

def locks : String := "locks"

def locksVerify : String := "locks/verify"

/-- Where an object is described. -/
def object (hash : String) : String := "objects/" ++ hash

/-- Where a lock is removed. -/
def unlock (id : String) : String := "locks/" ++ id ++ "/unlock"

/-- The media type of every request and response. -/
def mediaType : String := "application/vnd.git-lfs+json"

/-- An address without the slashes at its end. -/
def withoutSlashes (base : String) : String :=
  String.ofList (base.toList.reverse.dropWhile (· == '/')).reverse

/-- Puts a path below an address, with one slash between them. -/
def join (base path : String) : String :=
  withoutSlashes base ++ "/" ++ String.ofList (path.toList.dropWhile (· == '/'))

end LargeFiles.Remote.Endpoint
