import SqlProbe.Driver.Profile
import SqlProbe.Target.Build

/-!
# The profile of the MySQL driver
-/

namespace SqlProbe.Mysql

/-- What the MySQL driver says of itself. -/
def profile : Driver.Profile where
  name := "mysql"
  displayName := "tinyprobe MySQL driver (mysql_async)"
  capabilities := ⟨false, true⟩
  defaultPort := Target.defaultPort
  targetHelp := Target.help
  parseTarget := Target.parse
  buildTarget := Target.build

end SqlProbe.Mysql
