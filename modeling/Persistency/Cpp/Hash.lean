import Persistency.Library.BigEndian

namespace Persistency.Cpp
set_option autoImplicit true

abbrev Bytes := BigEndian.Bytes

def adler32Nmax : Nat := 5552

def adler32Base : UInt32 := 65521

/-- The sums after one block, without a reduction. -/
def adler32Block (a b : UInt32) (block : Bytes) : UInt32 × UInt32 :=
  block.foldl (fun s byte => (s.1 + byte.toUInt32, s.2 + (s.1 + byte.toUInt32))) (a, b)

def adler32Loop (a b : UInt32) (data : Bytes) : UInt32 × UInt32 :=
  match data with
  | [] => (a, b)
  | byte :: rest =>
    let s := adler32Block a b ((byte :: rest).take adler32Nmax)
    adler32Loop (s.1 % adler32Base) (s.2 % adler32Base) ((byte :: rest).drop adler32Nmax)
termination_by data.length
decreasing_by
  rw [List.length_drop, List.length_cons, adler32Nmax]
  omega

def calculateHashAdler32 (data : Bytes) : UInt32 :=
  let s := adler32Loop 1 0 data
  s.2 <<< 16 ||| s.1

/-- Reads four bytes; those that the stream does not have are zero. -/
def parseHashAdler32 (stream : Bytes) : UInt32 :=
  BigEndian.ofBytes (stream.getD 0 0) (stream.getD 1 0) (stream.getD 2 0) (stream.getD 3 0)

def getHashBytesAdler32 (hash : UInt32) : Bytes := BigEndian.toBytes hash

def getHashBytes (data : Bytes) : Bytes := getHashBytesAdler32 (calculateHashAdler32 data)

def checkHash (dataCalculate dataParse : Bytes) : Bool :=
  calculateHashAdler32 dataCalculate == parseHashAdler32 dataParse

theorem checkHash_getHashBytes (data : Bytes) : checkHash data (getHashBytes data) = true := by
  rw [checkHash, beq_iff_eq]
  exact (BigEndian.ofBytes_toBytes _).symm

end Persistency.Cpp
