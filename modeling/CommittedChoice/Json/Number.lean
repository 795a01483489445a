/-! JSON numbers, apart from how they are written: which literal is which number is for a conversion
of texts to tell, or whether it is one at all. -/
namespace CommittedChoice.Json

inductive Number where
  | integer (value : Int)
  | double (bits : UInt64)
  deriving DecidableEq

end CommittedChoice.Json
