import Sygma.Library.Bytes

/-!
# Hashing of typed structured data

EIP-712 derives the digest of a value from a description of its type: every struct is hashed as the
hash of its type string followed by one word per member, where a member that does not fit a word is
hashed itself. `FieldType` describes types, `FieldType.Value` are the values of a type, and
`hashStruct` is the recursion over both. The hash function is a parameter.
-/

namespace Eip712

mutual

/-- The types of members. -/
inductive FieldType where
  | uint (bits : Nat)
  | fixedBytes (size : Nat)
  | address
  | string
  | bytes
  | array (element : FieldType)
  | struct (name : String) (members : Members)

/-- The members of a struct, in their order. -/
inductive Members where
  | nil
  | cons (name : String) (type : FieldType) (rest : Members)

end

mutual

/-- The values of a type. -/
def FieldType.Value : FieldType → Type
  | .uint bits => BitVec bits
  | .fixedBytes size => Vector Byte size
  | .address => Vector Byte 20
  | .string => Bytes
  | .bytes => Bytes
  | .array element => List element.Value
  | .struct _ members => members.Values

/-- One value for each member. -/
def Members.Values : Members → Type
  | .nil => Unit
  | .cons _ type rest => type.Value × rest.Values

end

/-! ## Type strings -/

/-- The name of a type, as it stands before the name of a member. -/
def FieldType.typeName : FieldType → String
  | .uint bits => "uint" ++ toString bits
  | .fixedBytes size => "bytes" ++ toString size
  | .address => "address"
  | .string => "string"
  | .bytes => "bytes"
  | .array element => element.typeName ++ "[]"
  | .struct name _ => name

/-- The members of a struct with their types, separated by commas. -/
def Members.list : Members → List String
  | .nil => []
  | .cons name type rest => (type.typeName ++ " " ++ name) :: rest.list

/-- The name of a struct followed by its members. -/
def signature (name : String) (members : Members) : String :=
  name ++ "(" ++ ",".intercalate members.list ++ ")"

mutual

/-- The structs a type mentions. -/
def FieldType.structs : FieldType → List (String × Members)
  | .array element => element.structs
  | .struct name members => (name, members) :: members.structs
  | _ => []

/-- The structs the members of a struct mention. -/
def Members.structs : Members → List (String × Members)
  | .nil => []
  | .cons _ type rest => type.structs ++ rest.structs

end

/-- Insert a struct into a list that is sorted by name and names each struct once. -/
def insertStruct (item : String × Members) : List (String × Members) → List (String × Members)
  | [] => [item]
  | other :: rest =>
      if item.1 = other.1 then other :: rest
      else if item.1 < other.1 then item :: other :: rest
      else other :: insertStruct item rest

/-- The type string of a struct: its own signature, followed by those of the structs it mentions,
sorted by name. -/
def encodeType (name : String) (members : Members) : String :=
  let mentioned := (members.structs.foldr insertStruct []).filter fun item => item.1 ≠ name
  signature name members ++ String.join (mentioned.map fun item => signature item.1 item.2)

/-! ## Data -/

section

variable (hash : Bytes → Vector Byte 32)

/-- The hash of the type string of a struct. -/
def typeHash (name : String) (members : Members) : Vector Byte 32 :=
  hash (Bytes.ofString (encodeType name members))

mutual

/-- The word of a member: numbers and addresses are padded on the left, short byte strings on the
right, and everything that has no fixed size is hashed. -/
def encodeField : (type : FieldType) → type.Value → Bytes
  | .uint _, value => Bytes.toBigEndian 32 (BitVec.toNat value)
  | .fixedBytes size, value => Vector.toList value ++ List.replicate (32 - size) 0
  | .address, value => List.replicate 12 0 ++ Vector.toList value
  | .string, value => (hash value).toList
  | .bytes, value => (hash value).toList
  | .array element, items => (hash (List.flatMap (encodeField element) items)).toList
  | .struct name members, values =>
      (hash ((typeHash hash name members).toList ++ encodeData members values)).toList

/-- The words of the members in their order. -/
def encodeData : (members : Members) → members.Values → Bytes
  | .nil, _ => []
  | .cons _ type rest, (value, values) => encodeField type value ++ encodeData rest values

end

/-- The hash of a struct: its type hash followed by the words of its members. -/
def hashStruct (name : String) (members : Members) (values : members.Values) : Vector Byte 32 :=
  hash ((typeHash hash name members).toList ++ encodeData hash members values)

/-- The digest of a struct in a signing domain. -/
def digest (domain : Members) (domainValues : domain.Values) (name : String) (members : Members)
    (values : members.Values) : Vector Byte 32 :=
  hash ([0x19, 0x01] ++ (hashStruct hash "EIP712Domain" domain domainValues).toList ++
    (hashStruct hash name members values).toList)

end

end Eip712
