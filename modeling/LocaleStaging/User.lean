namespace LocaleStaging

abbrev UserId := UInt32

def perUserRange : UInt32 := 100000

def userOf (uid : UInt32) : UserId := uid / perUserRange

end LocaleStaging
