/-!
# Version

The version of the library's interface.
-/
namespace TcpSessions

def version : String := "0.1.0"

end TcpSessions
