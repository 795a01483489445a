import CommittedChoice.Unicode.Alphabetic
import CommittedChoice.Unicode.Lowercase
import CommittedChoice.Unicode.Numeric
import CommittedChoice.Unicode.Uppercase

/-! Classes of characters by their Unicode properties. -/
namespace CommittedChoice.Unicode

def isAlphabetic (char : Char) : Bool := alphabetic.contains char

def isUppercase (char : Char) : Bool := uppercase.contains char

def isLowercase (char : Char) : Bool := lowercase.contains char

def isNumeric (char : Char) : Bool := numeric.contains char

def isAlphanumeric (char : Char) : Bool := isAlphabetic char || isNumeric char

end CommittedChoice.Unicode
