/-!
# Names of payload protocols

An Ethernet frame names the protocol of its payload by a 16-bit number, an IPv4 datagram by an
8-bit number. This module gives the names under which these numbers are reported. Numbers that
are not assigned here are reported as `unknown`.
-/

namespace EchoInjector.Packet

/-- The Ethernet types that have a name. -/
def etherTypeNames : List (UInt16 × String) :=
  [(0x0800, "Ipv4"), (0x0806, "Arp"), (0x0842, "WakeOnLan"), (0x22f3, "Trill"),
   (0x6003, "DECnet"), (0x8035, "Rarp"), (0x809b, "AppleTalk"), (0x80f3, "Aarp"),
   (0x8137, "Ipx"), (0x8204, "Qnx"), (0x86dd, "Ipv6"), (0x8808, "FlowControl"),
   (0x8819, "CobraNet"), (0x8847, "Mpls"), (0x8848, "MplsMcast"), (0x8863, "PppoeDiscovery"),
   (0x8864, "PppoeSession"), (0x8100, "Vlan"), (0x88a8, "PBridge"), (0x88cc, "Lldp"),
   (0x88f7, "Ptp"), (0x8902, "Cfm"), (0x9100, "QinQ")]

/-- The name of an Ethernet type. -/
def etherTypeName (n : UInt16) : String :=
  (etherTypeNames.lookup n).getD "unknown"

/-- The Internet protocols that have a name. -/
def protocolNames : List (UInt8 × String) :=
  [(0, "Hopopt"), (1, "Icmp"), (2, "Igmp"), (3, "Ggp"), (4, "Ipv4"), (5, "St"), (6, "Tcp"),
   (7, "Cbt"), (8, "Egp"), (9, "Igp"), (10, "BbnRccMon"), (11, "NvpII"), (12, "Pup"),
   (13, "Argus"), (14, "Emcon"), (15, "Xnet"), (16, "Chaos"), (17, "Udp"), (18, "Mux"),
   (19, "DcnMeas"), (20, "Hmp"), (21, "Prm"), (22, "XnsIdp"), (23, "Trunk1"), (24, "Trunk2"),
   (25, "Leaf1"), (26, "Leaf2"), (27, "Rdp"), (28, "Irtp"), (29, "IsoTp4"), (30, "Netblt"),
   (31, "MfeNsp"), (32, "MeritInp"), (33, "Dccp"), (34, "ThreePc"), (35, "Idpr"), (36, "Xtp"),
   (37, "Ddp"), (38, "IdprCmtp"), (39, "TpPlusPlus"), (40, "Il"), (41, "Ipv6"), (42, "Sdrp"),
   (43, "Ipv6Route"), (44, "Ipv6Frag"), (45, "Idrp"), (46, "Rsvp"), (47, "Gre"), (48, "Dsr"),
   (49, "Bna"), (50, "Esp"), (51, "Ah"), (52, "INlsp"), (53, "Swipe"), (54, "Narp"),
   (55, "Mobile"), (56, "Tlsp"), (57, "Skip"), (58, "Icmpv6"), (59, "Ipv6NoNxt"),
   (60, "Ipv6Opts"), (61, "HostInternal"), (62, "Cftp"), (63, "LocalNetwork"), (64, "SatExpak"),
   (65, "Kryptolan"), (66, "Rvd"), (67, "Ippc"), (68, "DistributedFs"), (69, "SatMon"),
   (70, "Visa"), (71, "Ipcv"), (72, "Cpnx"), (73, "Cphb"), (74, "Wsn"), (75, "Pvp"),
   (76, "BrSatMon"), (77, "SunNd"), (78, "WbMon"), (79, "WbExpak"), (80, "IsoIp"), (81, "Vmtp"),
   (82, "SecureVmtp"), (83, "Vines"), (84, "TtpOrIptm"), (85, "NsfnetIgp"), (86, "Dgp"),
   (87, "Tcf"), (88, "Eigrp"), (89, "OspfigP"), (90, "SpriteRpc"), (91, "Larp"), (92, "Mtp"),
   (93, "Ax25"), (94, "IpIp"), (95, "Micp"), (96, "SccSp"), (97, "Etherip"), (98, "Encap"),
   (99, "PrivEncryption"), (100, "Gmtp"), (101, "Ifmp"), (102, "Pnni"), (103, "Pim"),
   (104, "Aris"), (105, "Scps"), (106, "Qnx"), (107, "AN"), (108, "IpComp"), (109, "Snp"),
   (110, "CompaqPeer"), (111, "IpxInIp"), (112, "Vrrp"), (113, "Pgm"), (114, "ZeroHop"),
   (115, "L2tp"), (116, "Ddx"), (117, "Iatp"), (118, "Stp"), (119, "Srp"), (120, "Uti"),
   (121, "Smp"), (122, "Sm"), (123, "Ptp"), (124, "IsisOverIpv4"), (125, "Fire"), (126, "Crtp"),
   (127, "Crudp"), (128, "Sscopmce"), (129, "Iplt"), (130, "Sps"), (131, "Pipe"), (132, "Sctp"),
   (133, "Fc"), (134, "RsvpE2eIgnore"), (135, "MobilityHeader"), (136, "UdpLite"),
   (137, "MplsInIp"), (138, "Manet"), (139, "Hip"), (140, "Shim6"), (141, "Wesp"),
   (142, "Rohc"), (253, "Test1"), (254, "Test2"), (255, "Reserved")]

/-- The name of an Internet protocol. -/
def protocolName (n : UInt8) : String :=
  (protocolNames.lookup n).getD "unknown"

end EchoInjector.Packet
