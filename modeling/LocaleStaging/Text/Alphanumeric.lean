import LocaleStaging.Text.Alphabetic
import LocaleStaging.Text.Numeric

namespace LocaleStaging

def isAlphanumeric (c : Char) : Bool := isAlphabetic c || isNumeric c

end LocaleStaging
