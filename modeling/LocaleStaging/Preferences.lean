import LocaleStaging.SortedMap

namespace LocaleStaging

abbrev Preferences := SortedMap String String

end LocaleStaging
