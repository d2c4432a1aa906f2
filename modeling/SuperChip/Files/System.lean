import SuperChip.Files.Tree

set_option autoImplicit false

/-!
The tree of files that a program finds on a usual system, around a current directory that holds its
own files. What differs from one system to the next is left out, and a file whose text differs is
empty or holds the lines that are the same everywhere.
-/

namespace SuperChip.FileTree

/-- A name that no path spells. It stands for a number or a name that is not known beforehand. -/
def unspoken : String := ""

def current : Place := [unspoken, "tmp"]

/-- The directory about the running program. -/
def process : Place := [unspoken, "proc"]

/-- The directory about the running thread. -/
def thread : Place := unspoken :: "task" :: process

/-- The place that a path from the root spells out. -/
def Place.ofPath (path : String) : Place :=
  ((path.splitOn "/").filter fun name => !staysAt name).reverse

/-- The directories that a path from the root leads to, by the directory that they are in. -/
def directories : List (String × List String) :=
  [("/", ["boot", "dev", "etc", "home", "media", "mnt", "opt", "proc", "root", "run", "srv", "sys",
      "tmp", "usr", "var"]),
    ("/dev", ["pts", "shm"]),
    ("/etc", ["alternatives", "apt", "cron.d", "cron.daily", "default", "dpkg", "init.d", "kernel",
      "ld.so.conf.d", "opt", "pam.d", "profile.d", "rc0.d", "rc1.d", "rc2.d", "rc3.d", "rc4.d",
      "rc5.d", "rc6.d", "rcS.d", "security", "selinux", "skel", "ssl", "systemd", "terminfo"]),
    ("/proc", ["1", "acpi", "bus", "driver", "fs", "irq", "sys", "sysvipc", "tty"]),
    ("/proc/sys", ["abi", "debug", "dev", "fs", "kernel", "net", "user", "vm"]),
    ("/proc/sys/kernel", ["keys", "random"]),
    ("/proc/sys/net", ["core", "ipv4", "netfilter", "unix"]),
    ("/run", ["lock"]),
    ("/sys", ["block", "bus", "class", "dev", "devices", "firmware", "fs", "kernel", "module",
      "power"]),
    ("/sys/class", ["net", "tty"]),
    ("/sys/devices", ["system", "virtual"]),
    ("/sys/fs", ["cgroup"]),
    ("/sys/kernel", ["mm"]),
    ("/usr", ["bin", "games", "include", "lib", "lib64", "libexec", "local", "sbin", "share",
      "src"]),
    ("/usr/lib", ["apt", "dpkg", "init", "locale", "mime", "systemd", "tmpfiles.d", "udev"]),
    ("/usr/local", ["bin", "etc", "games", "include", "lib", "sbin", "share", "src"]),
    ("/usr/local/share", ["man"]),
    ("/usr/share", ["common-licenses", "dict", "doc", "dpkg", "info", "keyrings", "locale", "man",
      "menu", "misc", "pam", "pixmaps", "tabset", "terminfo"]),
    ("/var", ["backups", "cache", "lib", "local", "log", "mail", "opt", "spool", "tmp"]),
    ("/var/cache", ["apt", "ldconfig"]),
    ("/var/lib", ["apt", "dpkg", "misc", "pam", "systemd"]),
    ("/var/log", ["apt"])]

/-- Links, and the paths that they stand for. -/
def links : List (String × String) :=
  [("/bin", "/usr/bin"), ("/lib", "/usr/lib"), ("/lib64", "/usr/lib64"), ("/sbin", "/usr/sbin"),
    ("/dev/fd", "/proc/self/fd"), ("/dev/stdin", "/proc/self/fd/0"),
    ("/dev/stdout", "/proc/self/fd/1"), ("/dev/stderr", "/proc/self/fd/2"),
    ("/etc/os-release", "/usr/lib/os-release"), ("/proc/mounts", "/proc/self/mounts"),
    ("/proc/net", "/proc/self/net"), ("/usr/bin/sh", "/usr/bin/dash"),
    ("/usr/local/man", "/usr/local/share/man"), ("/var/lock", "/run/lock"), ("/var/run", "/run"),
    ("/var/spool/mail", "/var/mail")]

/-- Files whose text differs from one system to the next, by the directory that they are in. -/
def plainFiles : List (String × List String) :=
  [("/dev", ["full", "null", "ptmx", "random", "urandom", "zero"]),
    ("/etc", ["bash.bashrc", "environment", "fstab", "gai.conf", "group", "group-", "gshadow",
      "host.conf", "hostname", "hosts", "issue", "issue.net", "ld.so.cache", "ld.so.conf",
      "localtime", "login.defs", "machine-id", "nsswitch.conf", "pam.conf", "passwd-", "profile",
      "resolv.conf", "shadow", "shadow-", "shells", "subgid", "subuid", "timezone"]),
    ("/proc", ["buddyinfo", "cgroups", "cmdline", "consoles", "cpuinfo", "crypto", "devices",
      "diskstats", "dma", "execdomains", "fb", "filesystems", "interrupts", "iomem", "ioports",
      "kallsyms", "key-users", "keys", "kmsg", "kpagecgroup", "kpagecount", "kpageflags", "loadavg",
      "locks", "meminfo", "misc", "modules", "mtrr", "pagetypeinfo", "partitions", "schedstat",
      "slabinfo", "softirqs", "stat", "swaps", "timer_list", "uptime", "version", "vmallocinfo",
      "vmstat", "zoneinfo"]),
    ("/proc/sys/kernel", ["core_pattern", "cap_last_cap", "hostname", "osrelease", "panic",
      "pid_max", "threads-max", "version"]),
    ("/proc/sys/kernel/random", ["boot_id", "entropy_avail", "poolsize", "uuid"]),
    ("/usr/bin", ["arch", "awk", "base64", "basename", "bash", "cat", "chgrp", "chmod", "chown",
      "comm", "cp", "cut", "dash", "date", "dd", "df", "diff", "dirname", "du", "echo", "env",
      "expr", "false", "find", "grep", "gzip", "head", "hostname", "id", "install", "join", "kill",
      "ln", "login", "ls", "md5sum", "mkdir", "mktemp", "more", "mount", "mv", "nohup", "nproc",
      "od", "passwd", "paste", "perl", "printf", "pwd", "readlink", "realpath", "rm", "rmdir",
      "sed", "seq", "sleep", "sort", "split", "stat", "stty", "su", "sync", "tail", "tar", "tee",
      "test", "timeout", "touch", "tr", "true", "tty", "umount", "uname", "uniq", "wc", "which",
      "who", "whoami", "xargs", "yes"]),
    ("/usr/sbin", ["chroot", "ldconfig", "useradd"])]

/-- Files whose text, or its beginning, is the same on every system. -/
def fixedFiles : List (String × String) :=
  [("/etc/passwd", "root:x:0:0:root:/root:/bin/bash\n"),
    ("/proc/sys/kernel/domainname", "(none)\n"),
    ("/proc/sys/kernel/ostype", "Linux\n"),
    ("/usr/lib/os-release", "PRETTY_NAME=")]

/-- The directories about a process or a thread. -/
def processDirectories : List String := ["attr", "fd", "fdinfo", "net", "ns"]

/-- The files about a process or a thread whose text differs from run to run. -/
def processPlainFiles : List String :=
  ["arch_status", "auxv", "cgroup", "cmdline", "environ", "exe", "gid_map", "io", "limits",
    "loginuid", "maps", "mountinfo", "mounts", "numa_maps", "oom_score", "pagemap", "projid_map",
    "sched", "schedstat", "sessionid", "smaps", "smaps_rollup", "stack", "stat", "statm", "syscall",
    "uid_map"]

/-- The files about a process or a thread of a program whose text is the same in every run. -/
def processFixedFiles (program : String) : List (String × String) :=
  [("comm", program ++ "\n"), ("cpuset", "/\n"), ("oom_adj", "0\n"), ("oom_score_adj", "0\n"),
    ("personality", "00000000\n"), ("setgroups", "allow\n"),
    ("status", "Name:\t" ++ program ++ "\nUmask:\t0022\n"), ("wchan", "0")]

/-- The files about a process that there are not for each of its threads. -/
def processOnlyFiles : List (String × String) :=
  [("autogroup", ""), ("coredump_filter", "00000033\n"), ("mountstats", ""), ("timers", ""),
    ("timerslack_ns", "50000\n")]

/-- The numbers of the streams that a program is started with. -/
def streams : List String := ["0", "1", "2"]

/-- The name spaces of a process. They have a name each and nothing to read. -/
def nameSpaces : List String :=
  ["cgroup", "ipc", "mnt", "net", "pid", "pid_for_children", "time", "time_for_children", "user",
    "uts"]

/-- What a process may be told about its rights; nothing, unless they are limited. -/
def rightsFiles : List String :=
  ["current", "exec", "fscreate", "keycreate", "prev", "sockcreate"]

def networkFiles : List String :=
  ["anycast6", "arp", "connector", "dev", "dev_mcast", "fib_trie", "fib_triestat", "icmp", "icmp6",
    "if_inet6", "igmp", "igmp6", "ip6_flowlabel", "ipv6_route", "mcfilter", "mcfilter6", "netlink",
    "netstat", "packet", "protocols", "psched", "ptype", "raw", "raw6", "route", "rt6_stats",
    "rt_acct", "rt_cache", "snmp", "snmp6", "sockstat", "sockstat6", "softnet_stat", "tcp", "tcp6",
    "udp", "udp6", "udplite", "udplite6", "unix"]

/-- A file with this text. -/
def Node.ofText (text : String) : Node := .file (.ok text.toUTF8.data)

/-- The same entry under each of these names in a directory. -/
def entries (place : Place) (node : Node) (names : List String) : List (Place × Node) :=
  names.map fun name => (name :: place, node)

/-- Files with their texts in a directory. -/
def textFiles (place : Place) (files : List (String × String)) : List (Place × Node) :=
  files.map fun (name, text) => (name :: place, .ofText text)

/-- What is known about a process or a thread of a program. -/
def processNodes (program : String) (place : Place) : List (Place × Node) :=
  entries place .directory processDirectories ++
    entries place (.ofText "") processPlainFiles ++
    textFiles place (processFixedFiles program) ++
    [("clear_refs" :: place, .file (.error .notReadable)),
      ("mem" :: place, .file (.error .inputOutput)),
      ("cwd" :: place, .link current []),
      ("root" :: place, .link [] [])] ++
    entries ("attr" :: place) (.file (.error .notReadable)) rightsFiles ++
    entries ("fd" :: place) (.ofText "") streams ++
    entries ("fdinfo" :: place) (.ofText "") streams ++
    entries ("ns" :: place) (.file (.error .notReadable)) nameSpaces ++
    entries ("net" :: place) .directory ["netfilter", "stat"] ++
    entries ("net" :: place) (.ofText "") networkFiles

/-- What is known about the running program. -/
def runningNodes (program : String) : List (Place × Node) :=
  [(["self", "proc"], .link process []),
    (["thread-self", "proc"], .link thread []),
    ("map_files" :: process, .directory),
    ("task" :: process, .directory)] ++
    textFiles process processOnlyFiles ++
    processNodes program process ++
    [("children" :: thread, .ofText "")] ++
    processNodes program thread

/-- What stands on the system whatever program runs. -/
def systemNodes : List (Place × Node) :=
  directories.flatMap (fun (path, names) => entries (.ofPath path) .directory names) ++
    links.map (fun (path, target) => (.ofPath path, .link [] (Place.ofPath target).reverse)) ++
    plainFiles.flatMap (fun (path, names) => entries (.ofPath path) (.ofText "") names) ++
    fixedFiles.map (fun (path, text) => (.ofPath path, .ofText text)) ++
    [(.ofPath "/dev/tty", .file (.error .noDevice))]

/-- The tree around a running program whose current directory holds these files and no others. -/
def around (program : String) (files : List (String × Array UInt8)) : FileTree where
  nodes := files.map (fun (name, bytes) => (name :: current, .file (.ok bytes))) ++
    runningNodes program ++ systemNodes
  here := current
  unbounded := ["proc", "sys"]

end SuperChip.FileTree
