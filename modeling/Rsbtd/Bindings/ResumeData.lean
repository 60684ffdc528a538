import Rsbtd.Bencode.Value

/-!
# Client data in resume data

`ct_write_resume_data_buf_ex` splices the client data verbatim under its own key of
the resume data, and `ct_read_resume_data_ex` looks it up again: libtorrent drops
keys it does not know, so the buffer is decoded a second time, with the default
limits of `bdecode`, and an error of that decode is ignored.

`Libtorrent` are its functions that these two call.
-/

namespace Rsbtd.ResumeData

open Bencode

structure LoadTorrentLimits where
  maxBufferSize : Int
  maxPieces : Int
  maxDecodeDepth : Int
  maxDecodeTokens : Int
  maxDuplicateFilenames : Int
  maxDirectoryDepth : Int
deriving DecidableEq, Repr

inductive Error where
  | bdecode
  | invalidBencoding
  | resumeData (message : String)
deriving DecidableEq, Repr

structure Libtorrent (Params : Type) where
  /-- How `bdecode` counts the nesting and the tokens of a value. -/
  depth : Value → Nat
  tokens : Value → Nat
  /-- The value the buffer begins with, if it is within the limits. -/
  bdecode : Bytes → (depthLimit tokenLimit : Int) → Option Value
  defaults : LoadTorrentLimits
  /-- `write_resume_data`: the keys of the dictionary, in order. -/
  writeResumeData : Params → List (Bytes × Value)
  /-- `read_resume_data` of a decoded buffer. -/
  readRoot : LoadTorrentLimits → Value → Except Error Params

/-- `rbt-data`. -/
def rbtDataKey : Bytes := [114, 98, 116, 45, 100, 97, 116, 97]

/-- The default arguments of `bdecode`. -/
def DEPTH_LIMIT : Int := 100
def TOKEN_LIMIT : Int := 2000000

/-- A value of an `lt::entry` dictionary. -/
inductive Entry where
  | node (value : Value)
  /-- Bytes that are written as they are. -/
  | preformatted (bytes : Bytes)

def Entry.bytes : Entry → Bytes
  | .node value => value.bytes
  | .preformatted bytes => bytes

def bencodePairs : List (Bytes × Entry) → Bytes
  | [] => []
  | (key, entry) :: rest => (Text.of key).bytes ++ (entry.bytes ++ bencodePairs rest)

/-- `lt::bencode` of a dictionary. -/
def bencode (entries : List (Bytes × Entry)) : Bytes := 100 :: bencodePairs entries ++ [101]

variable {Params : Type}

namespace Libtorrent

variable (lt : Libtorrent Params)

def entries (params : Params) : List (Bytes × Entry) :=
  (lt.writeResumeData params).map fun entry => (entry.1, .node entry.2)

def writeResumeDataBuf (params : Params) : Bytes := bencode (lt.entries params)

def readResumeData (buf : Bytes) (limits : LoadTorrentLimits) : Except Error Params :=
  match lt.bdecode buf limits.maxDecodeDepth limits.maxDecodeTokens with
  | none => .error .bdecode
  | some root => lt.readRoot limits root

end Libtorrent

section Bindings

variable (lt : Libtorrent Params)

/-- `to_lt_load_limits`. -/
def toLtLoadLimits (limits : Option LoadTorrentLimits) : LoadTorrentLimits :=
  limits.getD lt.defaults

/-- `ct_write_resume_data_buf_ex`. -/
def ctWriteResumeDataBufEx (params : Params) (extra : Bytes) : Except Error Bytes :=
  if extra.length = 0 then .ok (lt.writeResumeDataBuf params)
  else
    match lt.bdecode extra DEPTH_LIMIT TOKEN_LIMIT with
    | none => .error .bdecode
    | some blob =>
      if blob.bytes.length ≠ extra.length then .error .invalidBencoding
      else .ok (bencode (assign rbtDataKey (.preformatted extra) (lt.entries params)))

/-- `ct_read_resume_data_ex`: the params and `extra_out`. -/
def ctReadResumeDataEx (buf : Bytes) (limits : Option LoadTorrentLimits) :
    Except Error (Params × Bytes) :=
  match lt.readResumeData buf (toLtLoadLimits lt limits) with
  | .error e => .error e
  | .ok params =>
    match lt.bdecode buf DEPTH_LIMIT TOKEN_LIMIT with
    | none => .ok (params, [])
    | some root =>
      match root.find rbtDataKey with
      | none => .ok (params, [])
      | some value => .ok (params, value.bytes)

/-- `Session::write_resume_data`. -/
def writeResumeData (params : Params) : Bytes := lt.writeResumeDataBuf params

/-- `Session::write_resume_data_with` of client data that serializes to `blob`. -/
def writeResumeDataWith (params : Params) (blob : Bytes) : Except Error Bytes :=
  ctWriteResumeDataBufEx lt params blob

/-- `Session::read_resume_data`. -/
def readResumeData (buf : Bytes) (limits : Option LoadTorrentLimits) :
    Except Error (Params × Option Bytes) :=
  (ctReadResumeDataEx lt buf limits).map fun read =>
    (read.1, if read.2.length = 0 then none else some read.2)

end Bindings

end Rsbtd.ResumeData
