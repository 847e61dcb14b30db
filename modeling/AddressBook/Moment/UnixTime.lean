import AddressBook.Moment.DateTime
import AddressBook.Number.Double

namespace AddressBook.Moment

/-- Seconds since the beginning of 1970. The instant is divided with the precision of a binary
floating point number before it is rounded down, so a late microsecond of a distant year can count
for the second that follows. -/
def unixSeconds (m : Moment) : Int :=
  (Double.round (m.instant < 0) (m.instant.natAbs, 1000000)).floor

end AddressBook.Moment
